import Mathlib.Control.Monad.Basic
import OrgAccess.Proofs.Resolution.Origin

/-! Calls on back ends that other clients change meanwhile. A call takes its turn at most twice:
first it reads the store, and then, if the store had anything for it, the permission table. Each
turn is one atomic step, and so is each write and each rule that is added. Two turns in a row are a
call that nobody interrupts. -/

namespace OrgAccess

/-- What another client does in one step. -/
inductive Act where
  | write (w : Write)
  | append (rule : PermissionRule)
  deriving DecidableEq

namespace Act

def write? : Act → Option Write
  | .write w => some w
  | .append _ => none

def rule? : Act → Option PermissionRule
  | .write _ => none
  | .append rule => some rule

def writes (acts : List Act) : List Write := acts.filterMap write?

def rules (acts : List Act) : List PermissionRule := acts.filterMap rule?

/-- The writes come in one order, and so do the rules, whatever the order between them. -/
def SameOrders (acts acts' : List Act) : Prop :=
  writes acts = writes acts' ∧ rules acts = rules acts'

@[simp] theorem writes_append (xs ys : List Act) : writes (xs ++ ys) = writes xs ++ writes ys :=
  List.filterMap_append

@[simp] theorem rules_append (xs ys : List Act) : rules (xs ++ ys) = rules xs ++ rules ys :=
  List.filterMap_append

@[simp] theorem writes_map_write (ws : List Write) : writes (ws.map .write) = ws := by
  rw [writes, List.filterMap_map]
  exact List.filterMap_some

@[simp] theorem rules_map_write (ws : List Write) : rules (ws.map .write) = [] := by
  simp [rules, rule?]

@[simp] theorem writes_map_append (rs : List PermissionRule) : writes (rs.map .append) = [] := by
  simp [writes, write?]

@[simp] theorem rules_map_append (rs : List PermissionRule) : rules (rs.map .append) = rs := by
  rw [rules, List.filterMap_map]
  exact List.filterMap_some

end Act

/-- The store and the permission table, both in memory. -/
structure Backends where
  store : Store
  table : PermissionTable

namespace Backends

def source (b : Backends) : Source := .inMemory b.store b.table

def after (b : Backends) : Act → Backends
  | .write w => { b with store := b.store.after w }
  | .append rule => { b with table := b.table.push rule }

def run (b : Backends) (acts : List Act) : Backends := acts.foldl after b

theorem run_append (b : Backends) (xs ys : List Act) : b.run (xs ++ ys) = (b.run xs).run ys :=
  List.foldl_append

/-- A write does not wait for a rule, nor a rule for a write. -/
theorem run_eq (b : Backends) (acts : List Act) :
    b.run acts = ⟨b.store.run (Act.writes acts), (Act.rules acts).foldl .push b.table⟩ := by
  induction acts generalizing b with
  | nil => rfl
  | cons act acts ih =>
    rw [run, List.foldl_cons]
    show (b.after act).run acts = _
    rw [ih]
    cases act <;> rfl

theorem run_congr (b : Backends) {acts acts' : List Act} (h : Act.SameOrders acts acts') :
    b.run acts = b.run acts' := by
  rw [run_eq, run_eq, h.1, h.2]

/-- Rules that are added later may be there earlier: the store is none the wiser. -/
theorem run_rules_first (b : Backends) (first between : List Act) :
    b.run (first ++ (Act.rules between).map .append) =
      ⟨(b.run first).store, (b.run (first ++ between)).table⟩ := by
  rw [run_eq, run_eq, run_eq]
  simp

theorem integrity_run {b : Backends} (h : b.store.Integrity) (acts : List Act) :
    (b.run acts).store.Integrity := by
  rw [run_eq]
  exact h.run (Act.writes acts)

/-- What is granted stays granted, whatever other clients do. -/
theorem granted_run {b : Backends} {role : Role} {status : OrgStatus} {action : Action}
    (h : action ∈ b.table.actionsFor role status) (acts : List Act) :
    action ∈ (b.run acts).table.actionsFor role status := by
  rw [run_eq]
  exact ((b.table.lists_foldl_push (Act.rules acts) role status).mem_iff action).2 (Or.inl h)

end Backends

/-- What is asked of the resolver: an inquiry, as whoever names a principal and a target makes it,
a request, which may be malformed, or the listing of a user. -/
inductive Call where
  | answer (inquiry : Inquiry)
  | resolve (request : Request)
  | resolveAll (guid : Guid)
  deriving DecidableEq

/-- What the caller is told: a listing, which for an answer has one entry or none, or why not. -/
abbrev Reply := Except ResolveFault (List Authorization)

/-- How far a call has come. -/
inductive Stage where
  | waiting
  | found (standings : List Standing)
  | told (reply : Reply)
  deriving DecidableEq

namespace Call

/-- What a call is told that nobody interrupts. -/
def reply (source : Source) : Call → Reply
  | .answer inquiry => ((source.answer inquiry).map Option.toList).mapError .source
  | .resolve request => (source.resolve request).map Option.toList
  | .resolveAll guid => (source.resolveAll guid).mapError .source

/-- What a call finds in the store, unless it is malformed. -/
def find (s : Store) : Call → Except ResolveFault (List Standing)
  | .answer inquiry => .ok (inquiry.standing? s).toList
  | .resolve request =>
    (request.inquiry.mapError .request).map fun inquiry => (inquiry.standing? s).toList
  | .resolveAll guid => .ok (s.standingsOf guid)

/-- The first turn. Where there is nothing to grant, or nothing to look for, the call is over. -/
def readStore (call : Call) (s : Store) : Stage :=
  match call.find s with
  | .error fault => .told (.error fault)
  | .ok [] => .told (.ok [])
  | .ok (standing :: standings) => .found (standing :: standings)

/-- The second turn. A listing is made with the rules of the roles that occur in it. -/
def readTable (table : PermissionTable) (standings : List Standing) : Call → List Authorization
  | .answer _ => standings.map (·.grantedBy table)
  | .resolve _ => standings.map (·.grantedBy table)
  | .resolveAll _ => Standing.allGrantedBy standings table

theorem readTable_eq (call : Call) (table : PermissionTable) (standings : List Standing) :
    call.readTable table standings = standings.map (·.grantedBy table) := by
  cases call with
  | answer inquiry => rfl
  | resolve request => rfl
  | resolveAll guid => exact Standing.allGrantedBy_eq standings table

/-- A call is told what the table grants the standings it finds in the store. -/
theorem reply_inMemory (call : Call) (s : Store) (table : PermissionTable) :
    call.reply (.inMemory s table) = (call.find s).map (List.map (·.grantedBy table)) := by
  cases call with
  | answer inquiry =>
    rw [reply, Source.answer_inMemory, find]
    cases inquiry.standing? s <;> rfl
  | resolve request =>
    cases hinquiry : request.inquiry with
    | error fault =>
      rw [reply, Source.resolve_of_fault hinquiry, find, hinquiry]
      rfl
    | ok inquiry =>
      rw [reply, Source.resolve_of_inquiry hinquiry, find, hinquiry]
      show Except.ok ((inquiry.standing? s).map (·.grantedBy table)).toList =
        Except.ok ((inquiry.standing? s).toList.map (·.grantedBy table))
      cases inquiry.standing? s <;> rfl
  | resolveAll guid =>
    rw [reply, Source.resolveAll_inMemory, find]
    show Except.ok _ = Except.ok _
    rw [Store.standingsOf, List.map_map]
    rfl

theorem exists_find_of_reply {call : Call} {s : Store} {table : PermissionTable}
    {as : List Authorization} (h : call.reply (.inMemory s table) = .ok as) :
    ∃ standings, call.find s = .ok standings ∧ as = standings.map (·.grantedBy table) := by
  rw [reply_inMemory] at h
  cases hfind : call.find s with
  | error fault =>
    rw [hfind] at h
    cases h
  | ok standings =>
    rw [hfind] at h
    cases h
    exact ⟨standings, rfl, rfl⟩

/-- After its first turn a call is over, and told the same whatever the table, or it has found what
the table is to be read for. -/
theorem readStore_outcome (call : Call) (s : Store) :
    (∃ reply, call.readStore s = .told reply ∧
        ∀ table, call.reply (.inMemory s table) = reply) ∨
      ∃ standings, call.readStore s = .found standings ∧
        ∀ table, call.reply (.inMemory s table) = .ok (call.readTable table standings) := by
  simp only [reply_inMemory, readTable_eq, readStore]
  cases call.find s with
  | error fault => exact Or.inl ⟨_, rfl, fun _ => rfl⟩
  | ok standings =>
    cases standings with
    | nil => exact Or.inl ⟨_, rfl, fun _ => rfl⟩
    | cons standing standings => exact Or.inr ⟨_, rfl, fun _ => rfl⟩

theorem reply_of_told {call : Call} {s : Store} {reply : Reply} (h : call.readStore s = .told reply)
    (table : PermissionTable) : call.reply (.inMemory s table) = reply := by
  rcases call.readStore_outcome s with ⟨_, hread, hreply⟩ | ⟨_, hread, _⟩
  · rw [hread] at h
    cases h
    exact hreply table
  · rw [hread] at h
    cases h

theorem reply_of_found {call : Call} {s : Store} {standings : List Standing}
    (h : call.readStore s = .found standings) (table : PermissionTable) :
    call.reply (.inMemory s table) = .ok (call.readTable table standings) := by
  rcases call.readStore_outcome s with ⟨_, hread, _⟩ | ⟨_, hread, hreply⟩
  · rw [hread] at h
    cases h
  · rw [hread] at h
    cases h
    exact hreply table

/-- What a call finds is told by the store. -/
theorem tells_of_find {s : Store} (hs : s.Integrity) {call : Call} {standings : List Standing}
    (h : call.find s = .ok standings) {standing : Standing} (hmem : standing ∈ standings) :
    s.Tells standing := by
  cases call with
  | answer inquiry =>
    cases h
    exact Store.tells_of_standing? hs (Option.mem_toList.1 hmem)
  | resolve request =>
    cases hinquiry : request.inquiry with
    | error fault =>
      rw [find, hinquiry] at h
      cases h
    | ok inquiry =>
      rw [find, hinquiry] at h
      cases h
      exact Store.tells_of_standing? hs (Option.mem_toList.1 hmem)
  | resolveAll guid =>
    cases h
    exact Store.tells_of_standingsOf hs hmem

end Call

namespace Stage

/-- A turn of the call. Once it is over there is nothing left to do. -/
def turn (call : Call) (b : Backends) : Stage → Stage
  | .waiting => call.readStore b.store
  | .found standings => .told (.ok (call.readTable b.table standings))
  | .told reply => .told reply

@[simp] theorem turn_told (call : Call) (b : Backends) (reply : Reply) :
    (told reply).turn call b = .told reply := rfl

/-- A call that reads both back ends without a step of others in between is an uninterrupted one. -/
theorem turn_turn_waiting (call : Call) (b : Backends) :
    (waiting.turn call b).turn call b = .told (call.reply b.source) := by
  rw [Backends.source]
  rcases call.readStore_outcome b.store with ⟨reply, hread, hreply⟩ | ⟨standings, hread, hreply⟩
  · rw [turn, hread, turn, hreply]
  · rw [turn, hread, turn, hreply]

end Stage

end OrgAccess
