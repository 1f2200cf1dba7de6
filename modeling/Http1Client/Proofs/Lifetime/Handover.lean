import Http1Client.Proofs.Lifetime.Store
import Http1Client.Response.Received

/-!
# What it costs to hand a response over

The content of a message has one reference of its own, and handing the response over uses it up,
whatever becomes of the response. If the scope is live it takes a reference first and owes it from
then on, so the content has as many references as before. If it is closed the reference that was
taken for it goes back at once, and there is one fewer. A content without references gives none to
take and has none to use up. `assemble_paths` says what each of the three changes, and that it
changes nothing else; by `Store.owed` they are one law (`assemble_balance`).
-/

namespace Http1Client

/-- The actions that a scope will run at its end. -/
def Scope.entries : Scope → List Entry
  | live queue => queue
  | closed => []

/-- How many references to a buffer all scopes have taken and will give back. -/
def Store.owed (s : Store) (b : BufferId) : Nat :=
  (s.scopes.flatMap Scope.entries).countP (·.action = .giveBack b)

namespace Store

variable {s s' : Store} {e : ScopeId} {b : BufferId} {queue : List Entry}

/-! ## What scopes owe -/

theorem owed_eq_of_scopes (h : s'.scopes = s.scopes) (b : BufferId) : s'.owed b = s.owed b := by
  unfold owed
  rw [h]

/-- A scope that queues to give back a reference owes one more. -/
theorem owed_push (hlive : s.scope e = .live queue) (ticket : Nat) (b : BufferId) :
    (s.setScope e (.live (⟨ticket, .giveBack b⟩ :: queue))).owed b = s.owed b + 1 := by
  have hcount := countP_flatMap_set Scope.entries (getElem?_of_live hlive)
    (.live (⟨ticket, .giveBack b⟩ :: queue)) (·.action = .giveBack b)
  have hpush : (Scope.entries (.live (⟨ticket, .giveBack b⟩ :: queue))).countP
      (·.action = .giveBack b) = queue.countP (·.action = .giveBack b) + 1 :=
    List.countP_cons_of_pos (decide_eq_true rfl)
  rw [hpush] at hcount
  show ((s.scopes.set e.index _).flatMap Scope.entries).countP _ =
    (s.scopes.flatMap Scope.entries).countP _ + 1
  have hbefore : Scope.entries (.live queue) = queue := rfl
  rw [hbefore] at hcount
  omega

/-! ## The three paths -/

variable (status : Status) (headers : Headers)

/-- Handing over in terms of the reference that is kept and the one that is used up. -/
theorem assemble_eq (s : Store) (content : BufferId) (e : ScopeId) :
    s.assemble status headers content e =
      (((s.keepUntilClose content e).1.release content).1,
        if (s.keepUntilClose content e).2 then .ok ⟨status, headers,
          MediaType.ofField (headers.get? "Content-Type"), content⟩
        else .error .abandoned) := rfl

theorem assemble_of_live (hrefs : (s.buffer b).refs ≠ 0) (hlive : s.scope e = .live queue) :
    (s.assemble status headers b e).2 =
        .ok ⟨status, headers, MediaType.ofField (headers.get? "Content-Type"), b⟩ ∧
      (s.assemble status headers b e).1.buffers = s.buffers ∧
      (s.assemble status headers b e).1.scopes =
        (s.setScope e (.live (⟨s.nextTicket, .giveBack b⟩ :: queue))).scopes := by
  obtain ⟨hscopes, hticket⟩ := retain_scopes s b
  have hretained : (s.retain b).1.scope e = .live queue :=
    (scope_eq_of_scopes hscopes e).trans hlive
  rw [assemble_eq, keepUntilClose_of_live hlive hrefs]
  refine ⟨rfl, ?_, ?_⟩
  · exact buffers_release_retain hrefs (offer_buffers _ e _)
  · dsimp only
    rw [(release_scopes _ b).1, offer_of_live hretained, hticket]
    show (s.retain b).1.scopes.set e.index _ = s.scopes.set e.index _
    rw [hscopes]

theorem assemble_of_closed {c : Nat} (hrefs : (s.buffer b).refs = c + 1)
    (hclosed : s.scope e = .closed) :
    (s.assemble status headers b e).2 = .error .abandoned ∧
      (s.assemble status headers b e).1.scopes = s.scopes ∧
      (s.assemble status headers b e).1.buffers =
        (s.setBuffer b ⟨c, if c = 0 then none else (s.buffer b).bytes⟩).buffers := by
  rcases keepUntilClose_cases s b e with ⟨queue, hlive, -, -⟩ | ⟨hkept, hunmoved⟩
  · rw [hclosed] at hlive
    cases hlive
  · have hbuffer := buffer_eq_of_buffers hunmoved.buffers b
    have hleft : ((s.keepUntilClose b e).1.buffer b).refs = c + 1 := by rw [hbuffer, hrefs]
    rw [assemble_eq, hkept]
    refine ⟨rfl, (release_scopes _ b).1.trans hunmoved.scopes, ?_⟩
    dsimp only
    rw [release_of_refs hleft, hbuffer]
    show (s.keepUntilClose b e).1.buffers.set b.index _ = s.buffers.set b.index _
    rw [hunmoved.buffers]

theorem assemble_of_freed (hrefs : (s.buffer b).refs = 0) (e : ScopeId) :
    s.assemble status headers b e = (s.warn .releaseOfFreed, .error .abandoned) := by
  have hkept : s.keepUntilClose b e = (s, false) := by
    unfold keepUntilClose
    rw [retain_of_freed hrefs]
  rw [assemble_eq, hkept]
  dsimp only
  rw [release_of_freed hrefs]
  rfl

/-- A reference that no scope owes is used up, if there is any reference at all. -/
theorem assemble_balance (s : Store) (b : BufferId) (e : ScopeId) :
    ((s.assemble status headers b e).1.buffer b).refs + s.owed b +
        (if (s.buffer b).refs = 0 then 0 else 1) =
      (s.buffer b).refs + (s.assemble status headers b e).1.owed b := by
  by_cases hrefs : (s.buffer b).refs = 0
  · rw [if_pos hrefs, assemble_of_freed status headers hrefs, Nat.add_zero]
    rfl
  rw [if_neg hrefs]
  cases hscope : s.scope e with
  | live queue =>
    obtain ⟨-, hbuffers, hscopes⟩ := assemble_of_live status headers hrefs hscope
    rw [buffer_eq_of_buffers hbuffers, owed_eq_of_scopes hscopes, owed_push hscope, Nat.add_assoc]
  | closed =>
    obtain ⟨c, hc⟩ := Nat.exists_eq_succ_of_ne_zero hrefs
    obtain ⟨-, hscopes, hbuffers⟩ := assemble_of_closed status headers hc hscope
    rw [buffer_eq_of_buffers hbuffers, owed_eq_of_scopes hscopes,
      buffer_setBuffer (index_lt_of_refs hrefs), if_pos rfl, hc]
    dsimp only
    omega

/-- Handing a response over uses up one reference to its content. With a live scope it succeeds:
the count is what it was, the scope has queued, behind all that was queued before, to give one
reference back, and the response has the status, the fields and the bytes of the message. With a
closed one the response is abandoned, the count is one less, which frees the content if it was one,
and no scope has changed. If the content is freed already, it is abandoned and nothing has changed
but for a warning. -/
theorem assemble_paths (s : Store) (content : BufferId) (e : ScopeId) :
    let buffer := s.buffer content
    let after := s.assemble status headers content e
    (∀ queue, buffer.refs ≠ 0 → s.scope e = .live queue →
      after.2 = .ok ⟨status, headers, MediaType.ofField (headers.get? "Content-Type"), content⟩ ∧
        after.1.buffers = s.buffers ∧ after.1.scopes =
          (s.setScope e (.live (⟨s.nextTicket, .giveBack content⟩ :: queue))).scopes) ∧
    (∀ c, buffer.refs = c + 1 → s.scope e = .closed →
      after.2 = .error .abandoned ∧ after.1.scopes = s.scopes ∧
        after.1.buffers =
          (s.setBuffer content ⟨c, if c = 0 then none else buffer.bytes⟩).buffers) ∧
    (buffer.refs = 0 → after = (s.warn .releaseOfFreed, .error .abandoned)) ∧
    (after.1.buffer content).refs + s.owed content + (if buffer.refs = 0 then 0 else 1) =
      buffer.refs + after.1.owed content := by
  intro buffer after
  refine ⟨?live, ?closed, ?freed, ?balance⟩
  case live =>
    intro queue hrefs hlive
    exact assemble_of_live status headers hrefs hlive
  case closed =>
    intro c hrefs hclosed
    exact assemble_of_closed status headers hrefs hclosed
  case freed =>
    intro hrefs
    exact assemble_of_freed status headers hrefs e
  case balance => exact assemble_balance status headers s content e

/-- Contents with two references, with one and with none, and a scope that is live, one that is
closed and one that the store does not know. -/
theorem assemble_paths_reached :
    let s : Store :=
      ⟨[.live [⟨0, .done⟩], .closed], [⟨2, some [104]⟩, ⟨1, some [105]⟩, ⟨0, none⟩], 1, []⟩
    let handed (content : BufferId) (e : ScopeId) := s.assemble ⟨200, "OK"⟩ .empty content e
    ((handed ⟨0⟩ ⟨0⟩).1.buffers = s.buffers ∧
        (handed ⟨0⟩ ⟨0⟩).1.scopes = [.live [⟨1, .giveBack ⟨0⟩⟩, ⟨0, .done⟩], .closed]) ∧
      (handed ⟨0⟩ ⟨1⟩).1.buffers = [⟨1, some [104]⟩, ⟨1, some [105]⟩, ⟨0, none⟩] ∧
      (handed ⟨1⟩ ⟨7⟩).1.buffers = [⟨2, some [104]⟩, ⟨0, none⟩, ⟨0, none⟩] ∧
      handed ⟨2⟩ ⟨0⟩ = (s.warn .releaseOfFreed, .error .abandoned) := by
  intro s handed
  have hkept := (assemble_paths ⟨200, "OK"⟩ .empty s ⟨0⟩ ⟨0⟩).1 [⟨0, .done⟩] (by decide) rfl
  have hclosed := (assemble_paths ⟨200, "OK"⟩ .empty s ⟨0⟩ ⟨1⟩).2.1 1 rfl rfl
  have hunknown := (assemble_paths ⟨200, "OK"⟩ .empty s ⟨1⟩ ⟨7⟩).2.1 0 rfl rfl
  have hfreed := (assemble_paths ⟨200, "OK"⟩ .empty s ⟨2⟩ ⟨0⟩).2.2.1 rfl
  exact ⟨hkept.2, hclosed.2.2, hunknown.2.2, hfreed⟩

end Store

end Http1Client
