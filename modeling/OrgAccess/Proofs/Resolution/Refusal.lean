import OrgAccess.Proofs.Resolution.Answer

/-! What a source refuses. In memory it refuses a request for what the request lacks and for nothing
else. Neither the store nor the table has a say in that, and neither have the blanks around a
text. A closed pool refuses the same requests for the same reasons, and all others for the read that
they begin with. -/

namespace OrgAccess.Source

/-- An answer hangs on a request by the inquiry that the request makes. -/
theorem resolve_of_inquiry_eq (source : Source) {request request' : Request}
    (h : request.inquiry = request'.inquiry) :
    source.resolve request = source.resolve request' := by
  rw [resolve, resolve, h]

section InMemory
variable (s : Store) (table : PermissionTable) (request : Request)

theorem resolve_eq_error_iff (fault : ResolveFault) :
    (inMemory s table).resolve request = .error fault ↔
      ∃ reason, fault = .request reason ∧ request.Malformed reason := by
  constructor
  · intro h
    cases hinquiry : request.inquiry with
    | ok inquiry =>
      rw [resolve_of_inquiry hinquiry] at h
      cases h
    | error reason =>
      rw [resolve_of_fault hinquiry] at h
      cases h
      exact ⟨reason, rfl, Request.inquiry_eq_error_iff.1 hinquiry⟩
  · rintro ⟨reason, rfl, hmalformed⟩
    exact resolve_of_fault hmalformed.inquiry

theorem exists_resolve_eq_ok_iff :
    (∃ answer, (inMemory s table).resolve request = .ok answer) ↔
      ∀ reason, ¬ request.Malformed reason := by
  constructor
  · rintro ⟨answer, hok⟩ reason hmalformed
    rw [resolve_of_fault hmalformed.inquiry] at hok
    cases hok
  · intro h
    rcases request.malformed_or_asks with ⟨reason, hmalformed⟩ | ⟨inquiry, hasks⟩
    · exact absurd hmalformed (h reason)
    · exact ⟨_, resolve_of_inquiry hasks.inquiry⟩

end InMemory

/-- A request is refused just when it is malformed, for the reason for which it is, and in all other
cases it is answered. This holds for every store and every table. With its business identifier, its
product code or its corp type trimmed the request is answered or refused in the same way. -/
theorem refused_for_request (request : Request) :
    (∀ s table fault, (inMemory s table).resolve request = .error fault ↔
        ∃ reason, fault = .request reason ∧ request.Malformed reason) ∧
      (∀ s table, (∃ answer, (inMemory s table).resolve request = .ok answer) ↔
        ∀ reason, ¬ request.Malformed reason) ∧
      ∀ s table,
        (inMemory s table).resolve { request with target := request.target.map Target.trimmed } =
            (inMemory s table).resolve request ∧
          (inMemory s table).resolve
              { request with principal := request.principal.map Principal.trimmed } =
            (inMemory s table).resolve request ∧
          (inMemory s table).resolve { request with corpType := request.corpType.map Text.trim } =
            (inMemory s table).resolve request := by
  refine ⟨?_, ?_, ?_⟩
  · intro s table fault
    exact resolve_eq_error_iff s table request fault
  · intro s table
    exact exists_resolve_eq_ok_iff s table request
  · intro s table
    exact ⟨resolve_of_inquiry_eq _ request.inquiry_trimmed_target,
      resolve_of_inquiry_eq _ request.inquiry_trimmed_principal,
      resolve_of_inquiry_eq _ request.inquiry_trimmed_type⟩

/-! ## A closed pool -/

theorem resolve_closedPool_of_asks {request : Request} {inquiry : Inquiry}
    (h : request.Asks inquiry) :
    closedPool.resolve request = .error (.source (.poolClosed (firstReading inquiry))) := by
  rw [resolve, h.inquiry]
  rfl

/-- A closed pool refuses a malformed request as tables in memory do. Where these have an answer,
the pool fails at the first read. -/
theorem resolve_closedPool (request : Request) (s : Store) (table : PermissionTable) :
    (∃ fault, (inMemory s table).resolve request = .error (.request fault) ∧
        closedPool.resolve request = .error (.request fault)) ∨
      ∃ inquiry answer, request.Asks inquiry ∧ (inMemory s table).resolve request = .ok answer ∧
        closedPool.resolve request = .error (.source (.poolClosed (firstReading inquiry))) := by
  rcases request.malformed_or_asks with ⟨fault, hmalformed⟩ | ⟨inquiry, hasks⟩
  · have hinquiry := hmalformed.inquiry
    exact Or.inl ⟨fault, resolve_of_fault hinquiry, resolve_of_fault hinquiry⟩
  · exact Or.inr ⟨inquiry, _, hasks, resolve_of_inquiry hasks.inquiry,
      resolve_closedPool_of_asks hasks⟩

end OrgAccess.Source
