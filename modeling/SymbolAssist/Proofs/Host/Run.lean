import SymbolAssist.Proofs.Host.WellFormed

/-! Runs of requests, followed from one request to the next. -/

namespace SymbolAssist

namespace Host

/-- Two runs one after the other are one run. -/
theorem run_append (host : Host) (first second : List Request) :
    host.run (first ++ second) =
      ((host.run first).1 ++ ((host.run first).2.run second).1,
        ((host.run first).2.run second).2) := by
  -- The second run starts from the host that the first one ends with.
  induction first generalizing host with
  | nil => rfl
  | cons request rest ih => simp [run, ih]

end Host

/-- A host and the requests that it is to answer in turn. -/
structure Run where
  /-- The host before the first request. -/
  start : Host
  /-- The requests in order. -/
  requests : List Request

namespace Run

/-- The run of a new host. -/
def ofNew (source : Source) (settings : Settings) (requests : List Request) : Run :=
  ⟨.new source settings, requests⟩

/-- The host when a number of requests have been answered. -/
def hostAt (run : Run) (time : Nat) : Host :=
  (run.start.run (run.requests.take time)).2

/-- The request that is answered at a time. -/
def request? (run : Run) (time : Nat) : Option Request :=
  run.requests[time]?

/-- The slot that is acted on at a time. -/
def target? (run : Run) (time : Nat) : Option SlotId :=
  (run.request? time).bind (run.hostAt time).target?

/-- The document that is given a slot at a time, or keeps the one it has. -/
def document? (run : Run) (time : Nat) : Option DocumentId :=
  (run.request? time).bind Request.document?

/-- Before the first request the host is the given one. -/
@[simp] theorem hostAt_zero (run : Run) : run.hostAt 0 = run.start := by
  -- No request has been taken yet.
  simp [hostAt, Host.run]

/-- Each request takes the host one step further. -/
theorem hostAt_succ {run : Run} {time : Nat} {request : Request}
    (asked : run.request? time = some request) :
    run.hostAt (time + 1) = ((run.hostAt time).answer request).2 := by
  -- One more request is taken, and it is the last of those that were taken.
  rw [request?] at asked
  rw [hostAt, List.take_add_one, asked, Host.run_append]
  rfl

/-- Behind the last request the host stays as it is. -/
theorem hostAt_succ_of_none {run : Run} {time : Nat} (ended : run.request? time = none) :
    run.hostAt (time + 1) = run.hostAt time := by
  -- There is no further request to take.
  rw [request?] at ended
  rw [hostAt, List.take_add_one, ended]
  simp [hostAt]

/-- What holds at the start and is kept by every request holds throughout a run. -/
theorem hostAt_induction {run : Run} {holds : Host → Prop} (start : holds run.start)
    (step : ∀ host request, holds host → holds (host.answer request).2) (time : Nat) :
    holds (run.hostAt time) := by
  -- The host changes only where there is a request, and then it answers that one.
  induction time with
  | zero => rwa [hostAt_zero]
  | succ time ih =>
    cases asked : run.request? time with
    | none => rwa [hostAt_succ_of_none asked]
    | some request =>
      rw [hostAt_succ asked]
      exact step _ request ih

/-- All slots stay apart throughout a run. -/
theorem wellFormed_hostAt {run : Run} (start : run.start.WellFormed) (time : Nat) :
    (run.hostAt time).WellFormed :=
  -- Each answer keeps the slots apart.
  hostAt_induction start (fun _ request wellFormed => Host.wellFormed_answer wellFormed request) time

/-- Throughout a run slots are only added, and go to no further document. -/
theorem precedes_hostAt (run : Run) {earlier later : Nat} (order : earlier ≤ later) :
    (run.hostAt earlier).Precedes (run.hostAt later) := by
  -- The induction is on the requests in between, each of which only adds slots.
  induction order with
  | refl => exact .refl _
  | @step later order ih =>
    cases asked : run.request? later with
    | none => rwa [hostAt_succ_of_none asked]
    | some request =>
      rw [hostAt_succ asked]
      exact ih.trans (Host.precedes_answer _ request)

end Run

end SymbolAssist
