import BurstLoad.Journal

/-!
Entries whose order means nothing. Probes of the gate and connections that close at one instant do
so independently of each other: a run of their entries is put into the order of what is shown.
-/

set_option autoImplicit false

namespace BurstLoad

/-- The activities that go on independently at one instant. -/
inductive Concurrent where
  | probing (time : Time)
  | closing (time : Time)
  deriving DecidableEq

/-- The activity that an entry belongs to, if it is one of them. -/
def Entry.concurrent? (e : Entry) : Option Concurrent :=
  match e.notice.part, e.notice.level with
  | .barrier, .debug => some (.probing e.time)
  | .listener, _ =>
    if e.notice.text.startsWith "Connection closed: " then some (.closing e.time) else none
  | _, _ => none

/-- Puts an entry in front of those of its activity that are shown later, or in front of all. -/
def insertInRun (shown : Entry → String) (e : Entry) : List Entry → List Entry
  | [] => [e]
  | f :: rest =>
    if e.concurrent?.isSome && f.concurrent? = e.concurrent? && shown f < shown e then
      f :: insertInRun shown e rest
    else e :: f :: rest

/-- Entries with each run of an independent activity in the order of what is shown. -/
def inRuns (shown : Entry → String) (entries : List Entry) : List Entry :=
  entries.foldr (insertInRun shown) []

end BurstLoad
