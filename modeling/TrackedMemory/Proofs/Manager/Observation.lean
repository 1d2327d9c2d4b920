import TrackedMemory.Proofs.Manager.Settled

/-!
# What is seen of a manager

A client sees how a call ends, and the backend sees the calls that are made to it. Neither sees what
is logged. An `Observation` is what the two see of one command, with the answers of the backend.
-/

namespace TrackedMemory

/-- What a client and the backend see of one call: the backend calls with their answers, and how
the call ends. -/
structure Observation where
  calls : List (Request × Reply (Option Ptr))
  result : Except Fault Answer

@[simp] def Reply.isRefused {α : Type} : Reply α → Bool
  | .refused _ => true
  | .granted _ | .raised _ => false

namespace Trace

def calls (trace : Trace) : List (Request × Reply (Option Ptr)) :=
  trace.filterMap fun
    | .logged _ => none
    | .called request reply => some (request, reply)

@[simp] theorem calls_nil : Trace.calls [] = [] := rfl

@[simp] theorem calls_logged (event : Event) (rest : Trace) :
    Trace.calls (.logged event :: rest) = Trace.calls rest := rfl

@[simp] theorem calls_called (request : Request) (reply : Reply (Option Ptr)) (rest : Trace) :
    Trace.calls (.called request reply :: rest) = (request, reply) :: Trace.calls rest := rfl

@[simp] theorem calls_append (first second : Trace) :
    Trace.calls (first ++ second) = first.calls ++ second.calls :=
  List.filterMap_append

@[simp] theorem calls_remarks (setup : Setup) (reason : Remark) :
    Trace.calls (Books.remarks setup reason) = [] := by
  unfold Books.remarks
  split <;> rfl

@[simp] theorem calls_correction (setup : Setup) (addr : Addr) (registered given : Size) :
    Trace.calls (Site.correction setup addr registered given) = [] := by
  unfold Site.correction
  split <;> simp

@[simp] theorem calls_grantedTrace (setup : Setup) (books : Books) (area : Area) (ptr : Ptr)
    (bytes : Size) : Trace.calls (Site.grantedTrace setup books area ptr bytes) = [] := by
  unfold Site.grantedTrace
  split
  · rfl
  · split <;> rfl

end Trace

theorem Books.query_calls (setup : Setup) (query : Query) (books : Books) :
    (Books.query setup query books).trace.calls = [] := by
  cases query with
  | sizeOf addr =>
    simp only [Books.query, Act.read_bind_apply, answerSize_apply]
    split
    · exact Trace.calls_remarks setup _
    · rfl
  | allocationCount space =>
    simp only [Books.query, Act.read_bind_apply, answerCount_apply]
    split
    · exact Trace.calls_remarks setup _
    · rfl
  | deallocationCount space =>
    simp only [Books.query, Act.read_bind_apply, answerCount_apply]
    split
    · exact Trace.calls_remarks setup _
    · rfl
  | totalLiveBytes =>
    simp only [Books.query, Act.read_bind_apply]
    cases books.statistics.totalLiveBytes? setup.build <;> rfl
  | _ => rfl

/-- What is seen of a sequence of commands; a command that breaks off does not end it. -/
def Site.observe {β : Type} [Backend β] (setup : Setup) : List Command → Site β → List Observation
  | [], _ => []
  | command :: rest, site =>
      let outcome := Site.run setup command site
      ⟨outcome.trace.calls, outcome.result⟩ :: observe setup rest outcome.state

end TrackedMemory
