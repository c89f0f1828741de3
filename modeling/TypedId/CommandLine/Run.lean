import TypedId.CommandLine.Plan

/-!
# Running a plan

A plan is carried out on a store of files. Steps are taken in order; the first that the file system refuses ends the
program.
-/

set_option autoImplicit false

namespace TypedId.CommandLine

/-- What a run has printed and logged, and the files it leaves. -/
structure Trace where
  output : String
  errors : String
  records : List LogRecord
  store : Files.Store

/-- The trace before the first step. -/
def Trace.start (store : Files.Store) : Trace :=
  ⟨"", "", [], store⟩

/-- A trace with the store that an attempt leaves, and what went wrong. -/
def Trace.after (trace : Trace) (attempt : Files.Store.Attempt) : Trace × Option Files.FileError :=
  ({ trace with store := attempt.1 }, attempt.2)

/-- Takes one step. -/
def Trace.take (trace : Trace) : Step → Trace × Option Files.FileError
  | .print text => ({ trace with output := trace.output ++ text }, none)
  | .printError text => ({ trace with errors := trace.errors ++ text }, none)
  | .log record => ({ trace with records := trace.records ++ [record] }, none)
  | .makeDirectories path => trace.after (trace.store.makeDirectories path)
  | .write path text => trace.after (trace.store.write path (Text.Utf8.encode text.toList))

/-- Takes steps one after the other; gives the trace and what ended it early. -/
def Trace.takeAll (trace : Trace) : List Step → Trace × Option Files.FileError
  | [] => (trace, none)
  | step :: rest =>
    match trace.take step with
    | (next, none) => next.takeAll rest
    | failed => failed

/-- What a run prints, logs and leaves, and how it ends. -/
structure Outcome where
  ending : Ending
  trace : Trace

/-- Carries a plan out on a store. -/
def Plan.run (plan : Plan) (store : Files.Store) : Outcome :=
  match (Trace.start store).takeAll plan.steps with
  | (trace, none) => ⟨plan.ending, trace⟩
  | (trace, some error) => ⟨.failure (.file error), trace⟩

/-- Runs a call on a store. -/
def runCall (environment : String → Option String) (arguments : List String) (store : Files.Store) : Outcome :=
  (planCall environment store.status arguments).run store

end TypedId.CommandLine
