import OrgAccess.Json.Identity
import OrgAccess.Json.Records
import OrgAccess.Json.View
import OrgAccess.Proofs.Guid
import OrgAccess.Proofs.Json.Fields

/-! Every record reads back from its JSON. Most are read field by field, and the rest follows from
that each reader of a field undoes its writer. The kind of a principal decides which of its other
fields are read, but it is looked for among all of them, so it may stand last. -/

namespace OrgAccess

open Json (required optional fields? members? atMostOnce? ofFields ofOption ofText text? Whole
  Arrangement Steady ReadsBack)

/-! Values of a single text or number. -/

namespace Id

variable {kind : IdKind}

@[simp]
theorem whole_toJson (id : Id kind) : id.toJson.Whole := Json.whole_ofInt _

theorem ofInt?_toInt (id : Id kind) : ofInt? id.value.toInt = some id := by
  have hleast : - Int.ofNat least ≤ id.value.toInt := id.value.le_toInt
  have hgreatest : id.value.toInt ≤ Int.ofNat greatest := Int.le_of_lt_add_one id.value.toInt_lt
  rw [ofInt?, if_pos ⟨hleast, hgreatest⟩, Int64.ofInt_toInt]

@[simp]
theorem ofJson?_toJson (id : Id kind) : ofJson? id.toJson = some id := by
  rw [ofJson?, toJson, Json.int?_ofInt, Option.bind_some, ofInt?_toInt]

end Id

@[simp]
theorem Guid.whole_toJson (g : Guid) : g.toJson.Whole := Json.whole_ofText _

@[simp]
theorem Guid.ofJson?_toJson (g : Guid) : ofJson? g.toJson = some g := by
  rw [ofJson?, toJson, Json.text?_ofText, Option.bind_some, parse?_text]

@[simp]
theorem Role.whole_toJson (role : Role) : role.toJson.Whole := Json.whole_ofText _

@[simp]
theorem Role.ofJson?_toJson (role : Role) : ofJson? role.toJson = some role := rfl

@[simp]
theorem OrgStatus.whole_toJson (status : OrgStatus) : status.toJson.Whole := Json.whole_ofText _

@[simp]
theorem OrgStatus.ofJson?_toJson (status : OrgStatus) : ofJson? status.toJson = some status := rfl

@[simp]
theorem Action.whole_toJson (action : Action) : action.toJson.Whole := Json.whole_ofText _

@[simp]
theorem Action.ofJson?_toJson (action : Action) : ofJson? action.toJson = some action := rfl

@[simp]
theorem MembershipStatus.whole_toJson (status : MembershipStatus) : status.toJson.Whole :=
  Json.whole_ofText _

@[simp]
theorem MembershipStatus.ofJson?_toJson (status : MembershipStatus) :
    ofJson? status.toJson = some status := ofCode?_code status

@[simp]
theorem SubscriptionStatus.whole_toJson (status : SubscriptionStatus) : status.toJson.Whole :=
  Json.whole_ofText _

@[simp]
theorem SubscriptionStatus.ofJson?_toJson (status : SubscriptionStatus) :
    ofJson? status.toJson = some status := ofCode?_code status

@[simp]
theorem Timestamp.whole_toJson (t : Timestamp) : t.toJson.Whole := Json.whole_ofInt _

@[simp]
theorem Timestamp.ofJson?_toJson (t : Timestamp) : ofJson? t.toJson = some t := by
  rw [ofJson?, toJson, Json.int?_ofInt, Option.bind_some, ofInt?, dif_pos t.inRange]

/-! Fields that may be null. -/

@[simp]
theorem whole_optional_text (o : Option String) : (ofOption ofText o).Whole :=
  Json.whole_ofOption Json.whole_ofText o

@[simp]
theorem whole_optional_orgStatus (o : Option OrgStatus) : (ofOption OrgStatus.toJson o).Whole :=
  Json.whole_ofOption OrgStatus.whole_toJson o

@[simp]
theorem optional_orgStatus (o : Option OrgStatus) :
    optional OrgStatus.ofJson? (some (ofOption OrgStatus.toJson o)) = some o :=
  Json.optional_ofOption (fun _ => by rintro ⟨⟩) OrgStatus.ofJson?_toJson o

/-! Records that are read back as they are. -/

theorem Id.readsBack (kind : IdKind) : ReadsBack (@toJson kind) ofJson? [] :=
  Json.readsBack_of_scalar (fun _ _ => by rintro ⟨⟩) whole_toJson ofJson?_toJson

theorem Guid.readsBack : ReadsBack toJson ofJson? [] :=
  Json.readsBack_of_scalar (fun _ _ => by rintro ⟨⟩) whole_toJson ofJson?_toJson

theorem Role.readsBack : ReadsBack toJson ofJson? [] :=
  Json.readsBack_of_scalar (fun _ _ => by rintro ⟨⟩) whole_toJson ofJson?_toJson

theorem OrgStatus.readsBack : ReadsBack toJson ofJson? [] :=
  Json.readsBack_of_scalar (fun _ _ => by rintro ⟨⟩) whole_toJson ofJson?_toJson

theorem Action.readsBack : ReadsBack toJson ofJson? [] :=
  Json.readsBack_of_scalar (fun _ _ => by rintro ⟨⟩) whole_toJson ofJson?_toJson

theorem MembershipStatus.readsBack : ReadsBack toJson ofJson? [] :=
  Json.readsBack_of_scalar (fun _ _ => by rintro ⟨⟩) whole_toJson ofJson?_toJson

theorem SubscriptionStatus.readsBack : ReadsBack toJson ofJson? [] :=
  Json.readsBack_of_scalar (fun _ _ => by rintro ⟨⟩) whole_toJson ofJson?_toJson

/-! Records that are written with all their fields. -/

theorem PermissionRule.readsBack : ReadsBack toJson ofJson? fieldNames :=
  Json.readsBack_of_zip (by decide) (fun _ => rfl) (by simp) (by simp [required])

theorem Org.readsBack : ReadsBack toJson ofJson? fieldNames :=
  Json.readsBack_of_zip (by decide) (fun _ => rfl) (by simp) (by simp [required])

theorem User.readsBack : ReadsBack toJson ofJson? fieldNames :=
  Json.readsBack_of_zip (by decide) (fun _ => rfl) (by simp) (by simp [required])

theorem Entity.readsBack : ReadsBack toJson ofJson? fieldNames :=
  Json.readsBack_of_zip (by decide) (fun _ => rfl) (by simp) (by simp [required])

theorem Membership.readsBack : ReadsBack toJson ofJson? fieldNames :=
  Json.readsBack_of_zip (by decide) (fun _ => rfl) (by simp) (by simp [required])

theorem Affiliation.readsBack : ReadsBack toJson ofJson? fieldNames :=
  Json.readsBack_of_zip (by decide) (fun _ => rfl) (by simp) (by simp [required])

theorem Subscription.readsBack : ReadsBack toJson ofJson? fieldNames :=
  Json.readsBack_of_zip (by decide) (fun _ => rfl) (by simp) (by simp [required])

theorem Row.readsBack : ReadsBack toJson ofJson? fieldNames :=
  Json.readsBack_of_zip (by decide) (fun _ => rfl) (by simp) (by simp [required])

theorem Account.readsBack : ReadsBack toJson ofJson? fieldNames :=
  Json.readsBack_of_zip (by decide) (fun _ => rfl) (by simp) (by simp [required])

theorem Business.readsBack : ReadsBack toJson ofJson? fieldNames :=
  Json.readsBack_of_zip (by decide) (fun _ => rfl) (by simp) (by simp [required])

/-! Claims, which leave the product out when there is none. -/

namespace Claims

theorem whole_toJson (c : Claims) : c.toJson.Whole := by
  refine (Json.whole_ofFields_iff _).2 ?_
  cases c.productCode <;> simp [Json.whole_ofList]

theorem ofJson?_toJson (c : Claims) : ofJson? c.toJson = some c := by
  obtain ⟨subject, roles, product, issued, expires⟩ := c
  have hroles : rolesOfJson? (some (Json.ofList ofText roles)) = some roles :=
    Json.list?_ofList Json.text?_ofText roles
  have hfields : fields? fieldNames (toJson ⟨subject, roles, product, issued, expires⟩) =
      some [some subject.toJson, some (Json.ofList ofText roles), product.map ofText,
        some issued.toJson, some expires.toJson] := by
    cases product with
    | none => rfl
    | some product =>
      show fields? fieldNames (ofFields (fieldNames.zip [subject.toJson, Json.ofList ofText roles,
        ofText product, issued.toJson, expires.toJson])) = _
      rw [Json.fields?_zip (by decide) rfl]
      rfl
  have hproduct : optional text? (product.map ofText) = some product := by
    cases product <;> rfl
  rw [ofJson?, hfields]
  simp [required, hroles, hproduct]

theorem readsBack : ReadsBack toJson ofJson? fieldNames :=
  .of_steady (Json.steady_of_fields _ _) whole_toJson ofJson?_toJson

end Claims

namespace Principal

def fieldNames : List String := ["kind", "keycloak_guid", "product_code"]

theorem ofJson?_ofFields (fs : List (String × Json)) : ofJson? (ofFields fs) =
    if (ofFields fs).keepable 0 then
      ((atMostOnce? fs "kind").bind (required text?)).bind fun kind =>
        ofKind? kind (ofFields (fs.filter fun f => f.1 ≠ "kind"))
    else none := by
  unfold ofJson?
  split
  · show ((members? (ofFields fs)).bind fun ms => _) = _
    rw [Json.members?_ofFields, Option.bind_some, Option.bind_assoc]
    rfl
  · rfl

theorem steady_ofKind? (kind : String) : Steady (ofKind? kind) fieldNames := by
  intro fs gs h
  unfold ofKind?
  split
  · rw [h.fields? (by decide)]
  · rw [h.fields? (by decide)]
  · rw [h.fields? (by decide)]
  · rfl

theorem steady_ofJson? : Steady ofJson? fieldNames := by
  intro fs gs h
  have hkind : "kind" ∈ fieldNames := by decide
  rw [ofJson?_ofFields, ofJson?_ofFields, h.keepable, h.atMostOnce? hkind]
  simp only [steady_ofKind? _ _ _ (h.filter hkind)]

theorem whole_toJson (p : Principal) : p.toJson.Whole := by
  refine (Json.whole_ofFields_iff _).2 ?_
  cases p <;> simp

theorem keepable_toJson (p : Principal) : p.toJson.keepable 0 := by
  have htext : ∀ s, (ofText s).isPlain ∧ (ofText s).depth ≤ 126 := Json.keepable_ofText
  refine (Json.keepable_ofFields_iff _).2 ?_
  cases p <;> simp [Guid.toJson, htext]

/-- The kind is told from the field of its name, and the other fields are read as it says. -/
theorem ofJson?_kind {kind : String} {fs : List (String × Json)}
    (hkeep : (ofFields (("kind", ofText kind) :: fs)).keepable 0) (hfs : ∀ f ∈ fs, f.1 ≠ "kind") :
    ofJson? (ofFields (("kind", ofText kind) :: fs)) = ofKind? kind (ofFields fs) := by
  have hkind : atMostOnce? (("kind", ofText kind) :: fs) "kind" = some (some (ofText kind)) :=
    Json.atMostOnce?_append [("kind", ofText kind)] hfs
  have hrest : fs.filter (fun f => f.1 ≠ "kind") = fs :=
    List.filter_eq_self.2 fun f hf => by simpa using hfs f hf
  rw [ofJson?_ofFields, if_pos hkeep, hkind, List.filter_cons_of_neg (by simp), hrest]
  rfl

theorem fields?_guid (guid : Guid) :
    fields? ["keycloak_guid"] (ofFields [("keycloak_guid", guid.toJson)]) =
      some [some guid.toJson] := rfl

theorem ofJson?_toJson (p : Principal) : ofJson? p.toJson = some p := by
  have hkeep := p.keepable_toJson
  cases p with
  | user guid =>
    refine (ofJson?_kind hkeep (by simp)).trans ?_
    simp [kind, Principal.guid, ofKind?, fields?_guid, required]
  | staff guid =>
    refine (ofJson?_kind hkeep (by simp)).trans ?_
    simp [kind, Principal.guid, ofKind?, fields?_guid, required]
  | serviceAccount guid product =>
    have hfields : fields? ["keycloak_guid", "product_code"]
        (ofFields [("keycloak_guid", guid.toJson), ("product_code", ofText product)]) =
          some [some guid.toJson, some (ofText product)] := rfl
    refine (ofJson?_kind hkeep (by simp)).trans ?_
    simp [kind, Principal.guid, ofKind?, hfields, required]

theorem readsBack : ReadsBack toJson ofJson? fieldNames :=
  .of_steady steady_ofJson? whole_toJson ofJson?_toJson

end Principal

namespace Target

def fieldNames : List String := ["kind", "id"]

theorem ofJson?_ofFields (fs : List (String × Json)) : ofJson? (ofFields fs) =
    ((atMostOnce? fs "kind").bind (required Json.code?)).bind fun kind =>
      (atMostOnce? fs "id").bind (required (ofKind? kind)) := by
  show ((members? (ofFields fs)).bind fun ms => _) = _
  rw [Json.members?_ofFields, Option.bind_some, Option.bind_assoc]
  rfl

theorem steady_ofJson? : Steady ofJson? fieldNames := by
  intro fs gs h
  rw [ofJson?_ofFields, ofJson?_ofFields, h.atMostOnce? (by decide), h.atMostOnce? (by decide)]

theorem whole_toJson (target : Target) : target.toJson.Whole := by
  cases target <;> exact (Json.whole_ofFields_iff _).2 (by simp)

theorem ofJson?_toJson (target : Target) : ofJson? target.toJson = some target := by
  cases target with
  | org id =>
    show (Id.ofJson? id.toJson).map _ = _
    rw [Id.ofJson?_toJson]
    rfl
  | business identifier => rfl

theorem readsBack : ReadsBack toJson ofJson? fieldNames :=
  .of_steady steady_ofJson? whole_toJson ofJson?_toJson

end Target

/-- Whatever is both written and read as JSON reads back from the bytes it is written as. Where it
is an object, its fields may have been rearranged: those of a principal and of a target too, whose
kind may stand after what it is the kind of. -/
theorem records_readBack :
    (∀ kind, ReadsBack (@Id.toJson kind) Id.ofJson? []) ∧
    ReadsBack Guid.toJson Guid.ofJson? [] ∧
    ReadsBack Role.toJson Role.ofJson? [] ∧
    ReadsBack OrgStatus.toJson OrgStatus.ofJson? [] ∧
    ReadsBack Action.toJson Action.ofJson? [] ∧
    ReadsBack MembershipStatus.toJson MembershipStatus.ofJson? [] ∧
    ReadsBack SubscriptionStatus.toJson SubscriptionStatus.ofJson? [] ∧
    ReadsBack PermissionRule.toJson PermissionRule.ofJson? PermissionRule.fieldNames ∧
    ReadsBack Org.toJson Org.ofJson? Org.fieldNames ∧
    ReadsBack User.toJson User.ofJson? User.fieldNames ∧
    ReadsBack Entity.toJson Entity.ofJson? Entity.fieldNames ∧
    ReadsBack Membership.toJson Membership.ofJson? Membership.fieldNames ∧
    ReadsBack Affiliation.toJson Affiliation.ofJson? Affiliation.fieldNames ∧
    ReadsBack Subscription.toJson Subscription.ofJson? Subscription.fieldNames ∧
    ReadsBack Row.toJson Row.ofJson? Row.fieldNames ∧
    ReadsBack Account.toJson Account.ofJson? Account.fieldNames ∧
    ReadsBack Business.toJson Business.ofJson? Business.fieldNames ∧
    ReadsBack Claims.toJson Claims.ofJson? Claims.fieldNames ∧
    ReadsBack Principal.toJson Principal.ofJson? Principal.fieldNames ∧
    ReadsBack Target.toJson Target.ofJson? Target.fieldNames :=
  ⟨Id.readsBack, Guid.readsBack, Role.readsBack, OrgStatus.readsBack, Action.readsBack,
    MembershipStatus.readsBack, SubscriptionStatus.readsBack, PermissionRule.readsBack,
    Org.readsBack, User.readsBack, Entity.readsBack, Membership.readsBack, Affiliation.readsBack,
    Subscription.readsBack, Row.readsBack, Account.readsBack, Business.readsBack, Claims.readsBack,
    Principal.readsBack, Target.readsBack⟩

/-- A service account and a target whose kinds stand last, behind a text that neither has. -/
theorem records_readBack_sample :
    let guid : Guid := ⟨List.replicate 32 ⟨1, by decide⟩, rfl⟩
    let account := ofFields [("note", ofText "\"user\""), ("product_code", ofText "PPR"),
      ("keycloak_guid", guid.toJson), ("kind", ofText "service_account")]
    let business := ofFields [("note", ofText "org"), ("id", ofText "BC0000001"),
      ("kind", ofText "business")]
    Json.Rearranged Principal.fieldNames (Principal.serviceAccount guid "PPR").toJson account ∧
      Json.Rearranged Target.fieldNames (Target.business "BC0000001").toJson business ∧
      (Json.parse? account.bytes).bind Principal.ofJson? = some (.serviceAccount guid "PPR") ∧
      (Json.parse? business.bytes).bind Target.ofJson? = some (.business "BC0000001") := by
  intro guid account business
  have haccount : Json.Rearranged Principal.fieldNames
      (Principal.serviceAccount guid "PPR").toJson account :=
    .fields ⟨[("note", "\"user\"")], by simp [Principal.fieldNames], (List.reverse_perm _).symm⟩
  have hbusiness : Json.Rearranged Target.fieldNames
      (Target.business "BC0000001").toJson business :=
    .fields ⟨[("note", "org")], by simp [Target.fieldNames], (List.reverse_perm _).symm⟩
  obtain ⟨_, _, _, _, _, _, _, _, _, _, _, _, _, _, _, _, _, _, hprincipal, htarget⟩ :=
    records_readBack
  exact ⟨haccount, hbusiness, hprincipal _ _ haccount, htarget _ _ hbusiness⟩

end OrgAccess
