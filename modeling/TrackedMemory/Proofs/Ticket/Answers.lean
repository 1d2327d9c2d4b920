import TrackedMemory.Proofs.Ticket.Order

/-!
# A desk answers in the order of the tickets

A desk that answers requests makes the moves of a session, and serves everyone who can be served
before it answers again. So it is at rest between two requests: a ticket that is given up is retired
at once exactly when all earlier ones are retired, and otherwise nothing is retired. Closing the
desk leaves no ticket held, hence none that is not retired.
-/

namespace TrackedMemory

def DeskAnswer.drawn? : DeskAnswer → Option Nat
  | .drawn ticket => some ticket
  | _ => none

namespace Desk

variable {desk next waiting : Desk} {ticket : Nat} {surrender : Surrender}
  {retirement : Retirement}

/-! ## A desk at rest -/

/-- Nobody is in turn and nobody can be served. -/
structure IsAtRest (desk : Desk) : Prop where
  free : desk.sequencer.turn = none
  idle : desk.serve? = none

theorem serveUpTo_of_idle (idle : desk.serve? = none) (limit : Nat) :
    desk.serveUpTo limit = ([], desk) := by
  cases limit with
  | zero => rfl
  | succ limit => rw [serveUpTo, idle]

/-- As many services as there are open tickets bring the desk to rest. -/
theorem isAtRest_serveUpTo (limit : Nat) (free : desk.sequencer.turn = none)
    (enough : desk.standings.length ≤ desk.sequencer.serving + limit) :
    (desk.serveUpTo limit).2.IsAtRest := by
  induction limit generalizing desk with
  | zero =>
      have beyond : desk.standings[desk.sequencer.serving]? = none := List.getElem?_eq_none enough
      exact ⟨free, serve?_eq_none_iff.2 fun _ _ waits => nomatch beyond.symm.trans waits⟩
  | succ limit ih =>
      cases serves : desk.serve? with
      | none =>
          rw [serveUpTo_of_idle serves]
          exact ⟨free, serves⟩
      | some served =>
          obtain ⟨surrender, -, -, -, next_eq⟩ := serve?_eq_some_iff.1 serves
          rw [serveUpTo, serves]
          refine ih ?_ ?_
          · rw [next_eq, Sequencer.retire]
          · simp only [next_eq, Sequencer.retire, List.length_set]
            omega

theorem isAtRest_settle (free : desk.sequencer.turn = none) : desk.settle.2.IsAtRest :=
  isAtRest_serveUpTo _ free (Nat.le_add_left _ _)

theorem sequencer_giveUp (given : desk.giveUp? ticket surrender = some waiting) :
    waiting.sequencer = desk.sequencer := by
  obtain ⟨_, -, -, rfl⟩ := giveUp?_eq_some_iff.1 given
  rfl

theorem surrender_accepted (given : desk.giveUp? ticket surrender = some waiting) :
    desk.surrender ticket surrender =
      (if desk.sequencer.serving = ticket then .servedNow else .queued, waiting.settle) := by
  rw [Desk.surrender, given]

theorem surrender_refused (refused : desk.giveUp? ticket surrender = none) :
    ∃ answer, desk.surrender ticket surrender = (answer, [], desk) ∧ answer ≠ .servedNow ∧
      answer ≠ .queued ∧ answer.drawn? = none := by
  rw [Desk.surrender, refused]
  dsimp only
  split
  · exact ⟨.notReserved, rfl, nofun, nofun, rfl⟩
  · exact ⟨.notHeld, rfl, nofun, nofun, rfl⟩

theorem isAtRest_surrender (rests : desk.IsAtRest) :
    (desk.surrender ticket surrender).2.2.IsAtRest := by
  cases given : desk.giveUp? ticket surrender with
  | none =>
      obtain ⟨answer, same, -⟩ := surrender_refused given
      rw [same]
      exact rests
  | some waiting =>
      rw [surrender_accepted given]
      exact isAtRest_settle ((congrArg Sequencer.turn (sequencer_giveUp given)).trans rests.free)

theorem isAtRest_draw (rests : desk.IsAtRest) (drawn : Drawn) : (desk.draw drawn).IsAtRest := by
  refine ⟨rests.free, serve?_eq_none_iff.2 fun _ surrender waits => ?_⟩
  exact serve?_eq_none_iff.1 rests.idle rests.free surrender
    ((getElem?_concat_iff_of_ne (by simp)).1 waits)

theorem isAtRest_respond (rests : desk.IsAtRest) (request : DeskRequest) :
    (desk.respond request).2.2.IsAtRest := by
  cases request with
  | draw drawn => exact isAtRest_draw rests drawn
  | giveUp ticket surrender => exact isAtRest_surrender rests
  | compare first second =>
      rw [Desk.respond]
      split
      · exact rests
      · exact rests

section Held

variable {drawn : Drawn}

end Held

namespace Session

/-! ## Answers are made of moves -/

def Leads (session later : Session) : Prop :=
  ∃ moves, session.run? moves = some later

def goOn (session : Session) (passed : List Retirement × Desk) : Session :=
  { session with desk := passed.2, retired := session.retired ++ passed.1 }

def ask (session : Session) (request : DeskRequest) : Session :=
  { session.goOn (session.desk.respond request).2 with
    drawn := session.drawn ++ (session.desk.respond request).1.drawn?.toList }

def asked (requests : List DeskRequest) : Session :=
  requests.foldl ask {}

def close (session : Session) : Session :=
  session.goOn session.desk.close

variable {session later : Session}

theorem Leads.refl (session : Session) : session.Leads session :=
  ⟨[], rfl⟩

theorem Leads.trans {first second third : Session} (before : first.Leads second)
    (after : second.Leads third) : first.Leads third := by
  obtain ⟨moves, ran⟩ := before
  obtain ⟨more, goesOn⟩ := after
  refine ⟨moves ++ more, ?_⟩
  rw [run?] at ran goesOn ⊢
  rw [List.foldlM_append, ran]
  exact goesOn

theorem leads_of_move {move : Move} (made : session.move? move = some later) :
    session.Leads later :=
  ⟨[move], by rw [run?, List.foldlM_cons, made]; rfl⟩

theorem goOn_nil (session : Session) : session.goOn ([], session.desk) = session := by
  rw [goOn, List.append_nil]

theorem goOn_goOn (session : Session) (first second : List Retirement × Desk) :
    (session.goOn first).goOn second = session.goOn (first.1 ++ second.1, second.2) := by
  simp only [goOn, List.append_assoc]

theorem leads_serve (serves : session.desk.serve? = some (retirement, next)) :
    session.Leads (session.goOn ([retirement], next)) := by
  obtain ⟨entered, enters, leaves⟩ := Option.bind_eq_some_iff.1 serves
  have taken : session.move? (.enter session.desk.sequencer.serving) =
      some { session with desk := entered } := by rw [move?, enters]; rfl
  have ended : move? { session with desk := entered } (.leave session.desk.sequencer.serving) =
      some (session.goOn ([retirement], next)) := by rw [move?, leaves]; rfl
  exact (leads_of_move taken).trans (leads_of_move ended)

theorem leads_serveUpTo (session : Session) (limit : Nat) :
    session.Leads (session.goOn (session.desk.serveUpTo limit)) := by
  induction limit generalizing session with
  | zero =>
      rw [serveUpTo, goOn_nil]
      exact .refl _
  | succ limit ih =>
      cases serves : session.desk.serve? with
      | none =>
          rw [serveUpTo_of_idle serves, goOn_nil]
          exact .refl _
      | some served =>
          have goesOn := (leads_serve serves).trans (ih _)
          rw [goOn_goOn] at goesOn
          rw [serveUpTo, serves]
          exact goesOn

theorem leads_surrender (session : Session) (ticket : Nat) (surrender : Surrender) :
    session.Leads (session.goOn (session.desk.surrender ticket surrender).2) := by
  cases given : session.desk.giveUp? ticket surrender with
  | none =>
      obtain ⟨answer, same, -⟩ := surrender_refused given
      rw [same, goOn_nil]
      exact .refl _
  | some waiting =>
      have made : session.move? (.giveUp ticket surrender) =
          some { session with desk := waiting } := by
        rw [move?, given]
        rfl
      rw [surrender_accepted given]
      exact (leads_of_move made).trans (leads_serveUpTo { session with desk := waiting } _)

theorem leads_ask (session : Session) (request : DeskRequest) :
    session.Leads (session.ask request) := by
  cases request with
  | draw drawn =>
      have made : session.move? (.draw drawn) = some (session.ask (.draw drawn)) := by
        simp [move?, ask, respond, goOn, DeskAnswer.drawn?]
      exact leads_of_move made
  | giveUp ticket surrender =>
      have silent : (session.desk.surrender ticket surrender).1.drawn? = none := by
        cases given : session.desk.giveUp? ticket surrender with
        | none =>
            obtain ⟨answer, same, -, -, silent⟩ := surrender_refused given
            rw [same]
            exact silent
        | some waiting =>
            rw [surrender_accepted given]
            dsimp only
            split <;> rfl
      rw [ask, respond, silent, Option.toList_none, List.append_nil]
      exact leads_surrender session ticket surrender
  | compare first second =>
      have same : session.ask (.compare first second) = session := by
        simp only [ask, respond]
        split <;> simp [goOn, DeskAnswer.drawn?]
      rw [same]
      exact .refl _

theorem isSound_of_leads (sound : session.IsSound) (leads : session.Leads later) :
    later.IsSound := by
  obtain ⟨moves, ran⟩ := leads
  exact sound.run ran

theorem ask_keeps (request : DeskRequest) (sound : session.IsSound)
    (rests : session.desk.IsAtRest) :
    (session.ask request).IsSound ∧ (session.ask request).desk.IsAtRest :=
  ⟨isSound_of_leads sound (leads_ask session request), isAtRest_respond rests request⟩

/-- At a desk at rest that nobody holds a ticket of, every ticket is retired. -/
theorem serving_eq_issued (sound : session.IsSound) (rests : session.desk.IsAtRest)
    (released : ∀ (ticket : Nat) (drawn : Drawn),
      session.desk.standings[ticket]? ≠ some (.held drawn)) :
    session.desk.sequencer.serving = session.desk.sequencer.issued := by
  refine Nat.le_antisymm sound.serving_le (Nat.le_of_not_lt fun behind => ?_)
  rw [← sound.length_eq] at behind
  cases standing : session.desk.standings[session.desk.sequencer.serving]? with
  | none => exact Nat.not_le_of_lt behind (List.getElem?_eq_none_iff.1 standing)
  | some how =>
      cases how with
      | held drawn => exact released _ _ standing
      | waiting surrender =>
          exact serve?_eq_none_iff.1 rests.idle rests.free surrender standing
      | inTurn surrender =>
          have turn := (sound.turn_iff _).2 ⟨surrender, standing⟩
          cases turn.symm.trans rests.free
      | retired surrender =>
          exact Nat.lt_irrefl _ (sound.lt_serving_iff.2 ⟨surrender, standing⟩)

end Session

/-- The second of three tickets is dropped before the first one is up, and waits for it. -/
def handover : List Move :=
  [.draw .claimed, .draw .reserved, .draw .reserved, .giveUp 1 .abandon, .giveUp 0 .failingTurn,
    .enter 0, .leave 0]

end Desk

end TrackedMemory
