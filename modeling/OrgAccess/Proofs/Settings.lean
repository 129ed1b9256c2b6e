import OrgAccess.Proofs.Decimal
import OrgAccess.Proofs.Text
import OrgAccess.Settings
import OrgAccess.SocketAddress

/-! Settings as they are loaded. Four rules decide whether the variables can be used, and the first
one that is broken is reported. Of what is loaded the secret matters most: where none is given
another one stands in, but never beside a database. The database alone decides what the service
starts on. -/

namespace OrgAccess.Settings

variable {Address : Type} (readAddress : String → Option Address)
  (lookup : String → Option String)

/-! ## The rules -/

/-- If a database is named, then by more than blanks. -/
def UrlFits : Prop := ∀ url, lookup databaseUrlName = some url → ¬ Text.AllBlank url

/-- No secret is given, or one that is blank. -/
def LacksSecret : Prop := ∀ secret, lookup secretName = some secret → Text.AllBlank secret

/-- If a database is named, then a secret is given that is more than blanks. -/
def SecretFits : Prop :=
  lookup databaseUrlName = none ∨
    ∃ secret, lookup secretName = some secret ∧ ¬ Text.AllBlank secret

/-- What the address to listen on is read from. -/
def addressText : String := (lookup bindAddressName).getD defaultBindAddress

/-- The address is read from its text without the blanks around it. -/
def ReadsAs (address : Address) : Prop :=
  ∃ text, Text.Trims (addressText lookup) text ∧ readAddress text = some address

/-- If a limit is set, then to a positive number of 32 bits. -/
def LimitFits : Prop := ∀ value, lookup maxConnectionsName = some value →
  ∃ n, Decimal.Spells (2 ^ 32 - 1) value n

/-- The variables keep every rule. -/
structure Usable : Prop where
  url : UrlFits lookup
  secret : SecretFits lookup
  address : ∃ address, ReadsAs readAddress lookup address
  limit : LimitFits lookup

/-- The fault of the first rule that the variables break. -/
inductive FirstFault : Fault → Prop where
  | url (broken : ¬ UrlFits lookup) : FirstFault (.blank databaseUrlName)
  | secret (url : UrlFits lookup) (broken : ¬ SecretFits lookup) :
      FirstFault (.missing secretName)
  | address (url : UrlFits lookup) (secret : SecretFits lookup)
      (broken : ∀ address, ¬ ReadsAs readAddress lookup address) :
      FirstFault (.badAddress bindAddressName (addressText lookup))
  | limit (url : UrlFits lookup) (secret : SecretFits lookup)
      (address : ∃ address, ReadsAs readAddress lookup address) {value : String}
      (given : lookup maxConnectionsName = some value)
      (broken : ∀ n, ¬ Decimal.Spells (2 ^ 32 - 1) value n) :
      FirstFault (.badNumber maxConnectionsName value)

/-- The secret is the given one, or one stands in where no database is named. -/
inductive HasSecret : String → Prop where
  | given {secret : String} (given : lookup secretName = some secret)
      (notBlank : ¬ Text.AllBlank secret) : HasSecret secret
  | standIn (lacks : LacksSecret lookup) (noDatabase : lookup databaseUrlName = none) :
      HasSecret standInSecret

/-- The limit is the given one, or the usual one. -/
inductive HasLimit : Nat → Prop where
  | given {value : String} {n : Nat} (given : lookup maxConnectionsName = some value)
      (spells : Decimal.Spells (2 ^ 32 - 1) value n) : HasLimit n
  | usual (absent : lookup maxConnectionsName = none) : HasLimit defaultMaxConnections

/-- The settings are those that the variables give. -/
structure ReadFrom (settings : Settings Address) : Prop where
  databaseUrl : settings.databaseUrl = lookup databaseUrlName
  secret : HasSecret lookup settings.secret
  bindAddress : ReadsAs readAddress lookup settings.bindAddress
  maxConnections : HasLimit lookup settings.maxConnections

/-! ## One variable at a time -/

variable {readAddress lookup}

theorem loadDatabaseUrl_of_fits (h : UrlFits lookup) :
    loadDatabaseUrl lookup = .ok (lookup databaseUrlName) := by
  rw [loadDatabaseUrl]
  cases hurl : lookup databaseUrlName with
  | none => rfl
  | some url => exact if_neg (mt (Text.trim_eq_empty_iff url).1 (h url hurl))

theorem loadDatabaseUrl_of_not_fits (h : ¬ UrlFits lookup) :
    loadDatabaseUrl lookup = .error (.blank databaseUrlName) := by
  obtain ⟨url, hurl, hblank⟩ : ∃ url, lookup databaseUrlName = some url ∧ Text.AllBlank url := by
    simpa [UrlFits] using h
  rw [loadDatabaseUrl, hurl]
  exact if_pos ((Text.trim_eq_empty_iff url).2 hblank)

theorem lacksSecret_iff : LacksSecret lookup ↔
    ¬ ∃ secret, lookup secretName = some secret ∧ ¬ Text.AllBlank secret := by
  simp [LacksSecret]

theorem loadSecret_of_lacking (h : LacksSecret lookup) (url : Option String) :
    loadSecret lookup url =
      if url.isSome then .error (.missing secretName) else .ok standInSecret := by
  have hnone : (lookup secretName).filter (Text.trim · ≠ "") = none := by
    cases hsecret : lookup secretName with
    | none => rfl
    | some secret => simp [(Text.trim_eq_empty_iff secret).2 (h secret hsecret)]
  rw [loadSecret, hnone]

theorem loadSecret_of_hasSecret {secret : String} (h : HasSecret lookup secret) :
    loadSecret lookup (lookup databaseUrlName) = .ok secret := by
  cases h with
  | given given notBlank =>
    have hne : Text.trim secret ≠ "" := mt (Text.trim_eq_empty_iff secret).1 notBlank
    simp [loadSecret, given, Option.filter, hne]
  | standIn lacks noDatabase =>
    rw [loadSecret_of_lacking lacks, noDatabase]
    rfl

theorem loadSecret_of_not_fits (h : ¬ SecretFits lookup) :
    loadSecret lookup (lookup databaseUrlName) = .error (.missing secretName) := by
  obtain ⟨hurl, hlacks⟩ := not_or.1 h
  rw [loadSecret_of_lacking (lacksSecret_iff.2 hlacks)]
  exact if_pos (Option.isSome_iff_ne_none.2 hurl)

theorem SecretFits.exists_hasSecret (h : SecretFits lookup) :
    ∃ secret, HasSecret lookup secret := by
  by_cases hlacks : LacksSecret lookup
  · exact ⟨_, .standIn hlacks (h.resolve_right (lacksSecret_iff.1 hlacks))⟩
  · obtain ⟨secret, given, notBlank⟩ := not_not.1 (mt lacksSecret_iff.2 hlacks)
    exact ⟨secret, .given given notBlank⟩

/-- The secret that stands in is not blank, so it cannot be mistaken for a given one. -/
theorem HasSecret.given_iff {secret : String} (h : HasSecret lookup secret) :
    lookup secretName = some secret ↔ ¬ LacksSecret lookup := by
  cases h with
  | given given notBlank => exact iff_of_true given fun hlacks => notBlank (hlacks secret given)
  | standIn lacks _ =>
    refine iff_of_false (fun given => ?_) (not_not.2 lacks)
    exact absurd (lacks standInSecret given) (by decide)

theorem HasSecret.of_lacking {secret : String} (h : HasSecret lookup secret)
    (hlacks : LacksSecret lookup) :
    secret = standInSecret ∧ lookup databaseUrlName = none := by
  cases h with
  | given given notBlank => exact absurd (hlacks secret given) notBlank
  | standIn _ noDatabase => exact ⟨rfl, noDatabase⟩

theorem loadAddress_of_readsAs {address : Address} (h : ReadsAs readAddress lookup address) :
    loadAddress readAddress lookup = .ok address := by
  obtain ⟨text, htrims, hread⟩ := h
  rw [← (Text.trims_iff _ text).1 htrims, addressText] at hread
  simp only [loadAddress, hread]

theorem loadAddress_of_unreadable (h : ∀ address, ¬ ReadsAs readAddress lookup address) :
    loadAddress readAddress lookup = .error (.badAddress bindAddressName (addressText lookup)) := by
  have hread : readAddress (Text.trim (addressText lookup)) = none := by
    refine Option.eq_none_iff_forall_ne_some.2 fun address haddress => ?_
    exact h address ⟨_, (Text.trims_iff _ _).2 rfl, haddress⟩
  rw [addressText] at hread ⊢
  simp only [loadAddress, hread]

theorem readNat_iff_spells (value : String) (n : Nat) :
    Decimal.readNat greatestMaxConnections (Text.trimBlanks value.toList) = .ok n ∧ 0 < n ↔
      Decimal.Spells (2 ^ 32 - 1) value n := by
  have hgreatest : greatestMaxConnections = 2 ^ 32 - 1 := by decide
  rw [Decimal.readNat_eq_ok_iff, hgreatest, Decimal.spells_iff, and_comm]

theorem loadMaxConnections_of_hasLimit {n : Nat} (h : HasLimit lookup n) :
    loadMaxConnections lookup = .ok n := by
  cases h with
  | given given spells =>
    obtain ⟨hread, hpos⟩ := (readNat_iff_spells _ n).2 spells
    obtain ⟨k, rfl⟩ := Nat.exists_eq_succ_of_ne_zero hpos.ne'
    simp only [loadMaxConnections, given, hread]
  | usual absent => rw [loadMaxConnections, absent]

theorem loadMaxConnections_of_no_number {value : String}
    (h : lookup maxConnectionsName = some value)
    (hvalue : ∀ n, ¬ Decimal.Spells (2 ^ 32 - 1) value n) :
    loadMaxConnections lookup = .error (.badNumber maxConnectionsName value) := by
  simp only [loadMaxConnections, h]
  split
  · rename_i n hread
    exact absurd ((readNat_iff_spells value _).1 ⟨hread, Nat.succ_pos n⟩) (hvalue _)
  · rfl

theorem LimitFits.exists_hasLimit (h : LimitFits lookup) : ∃ n, HasLimit lookup n := by
  cases hvalue : lookup maxConnectionsName with
  | none => exact ⟨_, .usual hvalue⟩
  | some value =>
    obtain ⟨n, hspells⟩ := h value hvalue
    exact ⟨n, .given hvalue hspells⟩

theorem HasLimit.pos {n : Nat} (h : HasLimit lookup n) : 0 < n := by
  cases h with
  | given _ spells => exact ((readNat_iff_spells _ n).2 spells).2
  | usual _ => decide

/-! ## All variables -/

theorem load_of_readFrom {settings : Settings Address} (hurl : UrlFits lookup)
    (h : ReadFrom readAddress lookup settings) : load readAddress lookup = .ok settings := by
  obtain ⟨secret, url, address, limit⟩ := settings
  obtain ⟨rfl, hsecret, haddress, hlimit⟩ := h
  simp only [load, bind, Except.bind, pure, Except.pure, loadDatabaseUrl_of_fits hurl,
    loadSecret_of_hasSecret hsecret, loadAddress_of_readsAs haddress,
    loadMaxConnections_of_hasLimit hlimit]

theorem load_of_firstFault {fault : Fault} (h : FirstFault readAddress lookup fault) :
    load readAddress lookup = .error fault := by
  cases h with
  | url broken => simp only [load, bind, Except.bind, loadDatabaseUrl_of_not_fits broken]
  | secret url broken =>
    simp only [load, bind, Except.bind, loadDatabaseUrl_of_fits url, loadSecret_of_not_fits broken]
  | address url secret broken =>
    obtain ⟨_, hsecret⟩ := secret.exists_hasSecret
    simp only [load, bind, Except.bind, loadDatabaseUrl_of_fits url,
      loadSecret_of_hasSecret hsecret, loadAddress_of_unreadable broken]
  | limit url secret address given broken =>
    obtain ⟨_, hsecret⟩ := secret.exists_hasSecret
    obtain ⟨_, haddress⟩ := address
    simp only [load, bind, Except.bind, loadDatabaseUrl_of_fits url,
      loadSecret_of_hasSecret hsecret, loadAddress_of_readsAs haddress,
      loadMaxConnections_of_no_number given broken]

/-- Variables that keep every rule give settings. -/
theorem Usable.exists_readFrom (h : Usable readAddress lookup) :
    ∃ settings, ReadFrom readAddress lookup settings := by
  obtain ⟨secret, hsecret⟩ := h.secret.exists_hasSecret
  obtain ⟨address, haddress⟩ := h.address
  obtain ⟨limit, hlimit⟩ := h.limit.exists_hasLimit
  exact ⟨⟨secret, lookup databaseUrlName, address, limit⟩, rfl, hsecret, haddress, hlimit⟩

/-- Variables keep every rule, or there is a first one that they break. -/
theorem usable_or_firstFault (readAddress : String → Option Address)
    (lookup : String → Option String) :
    Usable readAddress lookup ∨ ∃ fault, FirstFault readAddress lookup fault := by
  by_cases url : UrlFits lookup
  · by_cases secret : SecretFits lookup
    · by_cases address : ∃ address, ReadsAs readAddress lookup address
      · by_cases limit : LimitFits lookup
        · exact Or.inl ⟨url, secret, address, limit⟩
        · obtain ⟨value, given, broken⟩ : ∃ value, lookup maxConnectionsName = some value ∧
              ∀ n, ¬ Decimal.Spells (2 ^ 32 - 1) value n := by
            simpa [LimitFits] using limit
          exact Or.inr ⟨_, .limit url secret address given broken⟩
      · exact Or.inr ⟨_, .address url secret (not_exists.1 address)⟩
    · exact Or.inr ⟨_, .secret url secret⟩
  · exact Or.inr ⟨_, .url url⟩

theorem load_eq_error_iff (fault : Fault) :
    load readAddress lookup = .error fault ↔ FirstFault readAddress lookup fault := by
  refine ⟨fun h => ?_, load_of_firstFault⟩
  rcases usable_or_firstFault readAddress lookup with husable | ⟨fault', hfirst⟩
  · obtain ⟨settings, hsettings⟩ := husable.exists_readFrom
    rw [load_of_readFrom husable.url hsettings] at h
    cases h
  · rw [load_of_firstFault hfirst] at h
    cases h
    exact hfirst

theorem load_eq_ok_iff (settings : Settings Address) :
    load readAddress lookup = .ok settings ↔
      Usable readAddress lookup ∧ ReadFrom readAddress lookup settings := by
  refine ⟨fun h => ?_, fun h => load_of_readFrom h.1.url h.2⟩
  rcases usable_or_firstFault readAddress lookup with husable | ⟨fault, hfirst⟩
  · obtain ⟨settings', hsettings⟩ := husable.exists_readFrom
    rw [load_of_readFrom husable.url hsettings] at h
    cases h
    exact ⟨husable, hsettings⟩
  · rw [load_of_firstFault hfirst] at h
    cases h

/-- Settings are loaded just when the variables keep four rules: a database that is named is named
by more than blanks; a secret is given beside it that is more than blanks; the address to listen on,
or the usual one, can be read; a limit that is set is a positive number of 32 bits. Otherwise the
first rule that is broken is reported. The loaded settings have the database that is named, the
address that is read, and a limit that is never zero. They have the given secret unless it is
missing or blank, and the one that stands in otherwise, in which case there is no database. -/
theorem loaded_by_rules (readAddress : String → Option Address)
    (lookup : String → Option String) :
    ((∃ settings, load readAddress lookup = .ok settings) ↔ Usable readAddress lookup) ∧
      (∀ fault, load readAddress lookup = .error fault ↔ FirstFault readAddress lookup fault) ∧
      ∀ settings, load readAddress lookup = .ok settings →
        ReadFrom readAddress lookup settings ∧
          settings.databaseUrl = lookup databaseUrlName ∧
          (lookup secretName = some settings.secret ↔ ¬ LacksSecret lookup) ∧
          (LacksSecret lookup →
            settings.secret = standInSecret ∧ settings.databaseUrl = none) ∧
          0 < settings.maxConnections := by
  refine ⟨?_, load_eq_error_iff, ?_⟩
  · constructor
    · rintro ⟨settings, h⟩
      exact ((load_eq_ok_iff settings).1 h).1
    · intro husable
      obtain ⟨settings, hsettings⟩ := husable.exists_readFrom
      exact ⟨settings, load_of_readFrom husable.url hsettings⟩
  · intro settings h
    obtain ⟨_, hread⟩ := (load_eq_ok_iff settings).1 h
    refine ⟨hread, hread.databaseUrl, hread.secret.given_iff, ?_, hread.maxConnections.pos⟩
    intro hlacks
    rw [hread.databaseUrl]
    exact hread.secret.of_lacking hlacks

/-- Variables of a service with a database. -/
def sampleVariables (name : String) : Option String :=
  [(databaseUrlName, "postgres://auth@db/auth"), (secretName, " s3cret "),
    (bindAddressName, "127.0.0.1:9000\n"), (maxConnectionsName, "\u00a0+012")].lookup name

/-- Blanks around the secret are part of it, unlike those around the address and the limit. Where no
variable is set, another secret stands in and there is no database. -/
theorem loaded_by_rules_sample :
    let settings : Settings SocketAddress :=
      ⟨" s3cret ", some "postgres://auth@db/auth", .v4 [127, 0, 0, 1] 9000, 12⟩
    let usual : Settings SocketAddress := ⟨standInSecret, none, .v4 [0, 0, 0, 0] 8080, 5⟩
    load SocketAddress.parse? sampleVariables = .ok settings ∧ ¬ LacksSecret sampleVariables ∧
      ReadFrom SocketAddress.parse? sampleVariables settings ∧
      load SocketAddress.parse? (fun _ => none) = .ok usual ∧ LacksSecret (fun _ => none) ∧
      usual.databaseUrl = none ∧ 0 < usual.maxConnections := by
  intro settings usual
  obtain ⟨_, _, hsettings⟩ := loaded_by_rules SocketAddress.parse? sampleVariables
  obtain ⟨_, _, husual⟩ := loaded_by_rules SocketAddress.parse? fun _ => none
  have hload : load SocketAddress.parse? sampleVariables = .ok settings := by decide +kernel
  have hloadUsual : load SocketAddress.parse? (fun _ => none) = .ok usual := by decide +kernel
  obtain ⟨hread, _, hgiven, _⟩ := hsettings settings hload
  obtain ⟨_, _, _, hstandIn, hpos⟩ := husual usual hloadUsual
  have hlacks : LacksSecret fun _ => none := fun _ h => nomatch h
  exact ⟨hload, hgiven.1 rfl, hread, hloadUsual, hlacks, (hstandIn hlacks).2, hpos⟩

/-! ## Where the service starts -/

/-- A letter, then letters, digits and three marks, then a colon, then anything. -/
def NamesScheme (cs : List Char) : Prop :=
  ∃ first name rest, cs = first :: name ++ ':' :: rest ∧ first.isAlpha = true ∧
    ∀ c ∈ name, isSchemeChar c = true

theorem isSchemeChar_of_isAlpha {c : Char} (h : c.isAlpha = true) : isSchemeChar c = true := by
  show (c.isAlpha || c.isDigit || "+-.".toList.contains c) = true
  rw [h]
  rfl

theorem hasScheme_iff (s : String) : hasScheme s = true ↔ NamesScheme (urlChars s) := by
  rw [hasScheme, Bool.and_eq_true]
  constructor
  · rintro ⟨hfirst, hcolon⟩
    generalize urlChars s = cs at hfirst hcolon
    cases cs with
    | nil => cases hfirst
    | cons first cs =>
      have hcolon := of_decide_eq_true hcolon
      rw [List.dropWhile_cons_of_pos (isSchemeChar_of_isAlpha hfirst)] at hcolon
      obtain ⟨rest, hrest⟩ := List.head?_eq_some_iff.1 hcolon
      refine ⟨first, cs.takeWhile isSchemeChar, rest, ?_, hfirst, ?_⟩
      · rw [← hrest, List.cons_append, List.takeWhile_append_dropWhile]
      · intro c hc
        exact List.mem_takeWhile_imp hc
  · rintro ⟨first, name, rest, hcs, hfirst, hname⟩
    have hall : ∀ c ∈ first :: name, isSchemeChar c = true :=
      List.forall_mem_cons.2 ⟨isSchemeChar_of_isAlpha hfirst, hname⟩
    rw [hcs, List.dropWhile_append_of_pos hall]
    exact ⟨hfirst, rfl⟩

/-- Where no database is named the service starts on empty tables with the usual rules. Where one is
named, it starts on what comes of connecting to it with the limit that is loaded, provided there is
a scheme to connect by. -/
theorem source_of_load {settings : Settings Address} (h : load readAddress lookup = .ok settings)
    (connect : String → Nat → Except SourceFault Source) :
    (lookup databaseUrlName = none →
        settings.source connect = .ok (.inMemory .empty .seed)) ∧
      ∀ url, lookup databaseUrlName = some url →
        (NamesScheme (urlChars url) →
            settings.source connect = connect url settings.maxConnections) ∧
          (¬ NamesScheme (urlChars url) → settings.source connect = .error .relativeUrl) := by
  have hurl := ((load_eq_ok_iff settings).1 h).2.databaseUrl
  refine ⟨?_, ?_⟩
  · intro hnone
    rw [source, hurl, hnone]
  · intro url hsome
    simp only [← hasScheme_iff]
    refine ⟨fun hscheme => ?_, fun hscheme => ?_⟩
    · simp only [source, hurl, hsome, if_pos hscheme]
    · simp only [source, hurl, hsome, if_neg hscheme]

end OrgAccess.Settings
