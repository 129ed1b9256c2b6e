import OrgAccess.Proofs.Inquiry
import OrgAccess.Proofs.Store.Winner
import OrgAccess.Resolver

/-! What a source in memory answers to an inquiry for a winner, told by the tables: the first
qualifying membership speaks, and the business is the first entity of its org that fits. -/

namespace OrgAccess

namespace Source

/-- An inquiry is answered with what the table grants the standing that it finds. -/
theorem answer_inMemory (s : Store) (table : PermissionTable) (inquiry : Inquiry) :
    (inMemory s table).answer inquiry = .ok ((inquiry.standing? s).map (·.grantedBy table)) := by
  unfold answer
  cases h : inquiry.standing? s with
  | none =>
    simp only [read, h]
    rfl
  | some standing =>
    simp only [read, h]
    rfl

theorem resolve_of_inquiry {s : Store} {table : PermissionTable} {request : Request}
    {inquiry : Inquiry} (h : request.inquiry = .ok inquiry) :
    (inMemory s table).resolve request =
      .ok ((inquiry.standing? s).map (·.grantedBy table)) := by
  rw [resolve, h]
  show ((inMemory s table).answer inquiry).mapError ResolveFault.source = _
  rw [answer_inMemory]
  rfl

/-- A malformed request is refused before anything is read. -/
theorem resolve_of_fault {source : Source} {request : Request} {fault : RequestFault}
    (h : request.inquiry = .error fault) : source.resolve request = .error (.request fault) := by
  rw [resolve, h]
  rfl

theorem inquiry_of_resolve {source : Source} {request : Request} {answer : Option Authorization}
    (h : source.resolve request = .ok answer) : ∃ inquiry, request.inquiry = .ok inquiry := by
  cases hinquiry : request.inquiry with
  | ok inquiry => exact ⟨inquiry, rfl⟩
  | error fault =>
    rw [resolve_of_fault hinquiry] at h
    cases h

theorem answer_winner (s : Store) (table : PermissionTable) (filter : Filter) :
    (inMemory s table).answer (.winner filter) =
      .ok ((s.fetch filter).map (Authorization.grantedBy table)) := by
  rw [answer_inMemory, Inquiry.standing?, Option.map_map]
  rfl

theorem resolve_winner {s : Store} {table : PermissionTable} {request : Request}
    {filter : Filter} (h : request.inquiry = .ok (.winner filter)) :
    (inMemory s table).resolve request =
      .ok ((s.fetch filter).map (Authorization.grantedBy table)) := by
  rw [resolve_of_inquiry h, Inquiry.standing?, Option.map_map]
  rfl

/-- A request is answered when there is a winner, and what holds of what every winner is granted
holds of the answer. -/
theorem resolve_exact {s : Store} {table : PermissionTable} {request : Request}
    {filter : Filter} (h : request.inquiry = .ok (.winner filter)) {Q : Prop}
    {R : Authorization → Prop} (hsome : (s.fetch filter).isSome = true ↔ Q)
    (hgrant : ∀ row, s.fetch filter = some row → R (Authorization.grantedBy table row)) :
    ∃ answer, (inMemory s table).resolve request = .ok answer ∧ (answer.isSome = true ↔ Q) ∧
      ∀ a, answer = some a → R a := by
  refine ⟨_, resolve_winner h, ?_, ?_⟩
  · rw [Option.isSome_map, hsome]
  · intro a ha
    obtain ⟨row, hrow, rfl⟩ := Option.map_eq_some_iff.1 ha
    exact hgrant row hrow

end Source

end OrgAccess
