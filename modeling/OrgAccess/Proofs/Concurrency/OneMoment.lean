import OrgAccess.Proofs.Concurrency.Call

/-! A call among the steps of other clients. Between its two turns anything may be written and any
rule added, and the call holds nothing but what it has read. Still it is told what an uninterrupted
call is told in one moment: writes and rules do not wait for each other, so the writes made between
the turns may as well be made afterwards, and the rules that were added may as well be there
before. -/

namespace OrgAccess

/-- One atomic step, of another client or of the call. -/
inductive Event where
  | other (act : Act)
  | turn
  deriving DecidableEq

namespace Event

def isTurn : Event → Bool
  | .other _ => false
  | .turn => true

def act? : Event → Option Act
  | .other act => some act
  | .turn => none

/-- What other clients do. -/
def acts (es : List Event) : List Act := es.filterMap act?

/-- How many turns the call takes. -/
def turns (es : List Event) : Nat := es.countP isTurn

/-- What other clients do before a turn of the call, where turns are counted from `0`. -/
def actsBefore : Nat → List Event → List Act
  | _, [] => []
  | n, .other act :: es => act :: actsBefore n es
  | 0, .turn :: _ => []
  | n + 1, .turn :: es => actsBefore n es

@[simp] theorem acts_append (xs ys : List Event) : acts (xs ++ ys) = acts xs ++ acts ys :=
  List.filterMap_append

@[simp] theorem acts_turn (es : List Event) : acts (.turn :: es) = acts es := rfl

@[simp] theorem acts_map_other (xs : List Act) : acts (xs.map .other) = xs := by
  rw [acts, List.filterMap_map]
  exact List.filterMap_some

@[simp] theorem turns_append (xs ys : List Event) : turns (xs ++ ys) = turns xs + turns ys :=
  List.countP_append

@[simp] theorem turns_turn (es : List Event) : turns (.turn :: es) = turns es + 1 :=
  List.countP_cons_of_pos rfl

@[simp] theorem turns_map_other (xs : List Act) : turns (xs.map .other) = 0 := by
  rw [turns, List.countP_eq_zero]
  intro e he
  obtain ⟨act, _, rfl⟩ := List.mem_map.1 he
  simp [isTurn]

@[simp] theorem actsBefore_map_other (n : Nat) (xs : List Act) (es : List Event) :
    actsBefore n (xs.map .other ++ es) = xs ++ actsBefore n es := by
  induction xs with
  | nil => rfl
  | cons act xs ih =>
    rw [List.map_cons, List.cons_append, List.cons_append, actsBefore, ih]

/-- What is done before a turn is done first of all. -/
theorem actsBefore_isPrefix (n : Nat) (es : List Event) : actsBefore n es <+: acts es := by
  induction es generalizing n with
  | nil => exact List.nil_prefix
  | cons e es ih =>
    cases e with
    | other act => exact (List.prefix_cons_inj act).2 (ih n)
    | turn =>
      cases n with
      | zero => exact List.nil_prefix
      | succ n => exact ih n

/-- What is done before the first turn is done before all others. -/
theorem actsBefore_zero_isPrefix (n : Nat) (es : List Event) :
    actsBefore 0 es <+: actsBefore n es := by
  induction es with
  | nil => exact List.nil_prefix
  | cons e es ih =>
    cases e with
    | other act => exact (List.prefix_cons_inj act).2 ih
    | turn => exact List.nil_prefix

/-- What is done before a turn that has been taken is settled. -/
theorem actsBefore_append {n : Nat} {es : List Event} (h : n < turns es) (next : List Event) :
    actsBefore n (es ++ next) = actsBefore n es := by
  induction es generalizing n with
  | nil => cases h
  | cons e es ih =>
    cases e with
    | other act =>
      have hturns : n < turns es := h
      rw [List.cons_append, actsBefore, actsBefore, ih hturns]
    | turn =>
      cases n with
      | zero => rfl
      | succ n =>
        rw [turns_turn] at h
        exact ih (Nat.lt_of_succ_lt_succ h)

/-- What is done after a turn includes all that follows once it has been taken. -/
theorem acts_isSuffix {n : Nat} {es next : List Event} (h : n < turns es) {rest : List Act}
    (hrest : actsBefore n (es ++ next) ++ rest = acts (es ++ next)) : acts next <:+ rest := by
  obtain ⟨between, hbetween⟩ := actsBefore_isPrefix n es
  rw [actsBefore_append h, acts_append, ← hbetween, List.append_assoc] at hrest
  rw [List.append_cancel_left hrest]
  exact List.suffix_append _ _

end Event

/-- The store that the first turn reads. -/
def Backends.storeRead (b : Backends) (es : List Event) : Store :=
  (b.run (Event.actsBefore 0 es)).store

/-- The table that the second turn reads, or would read after all the steps. -/
def Backends.tableRead (b : Backends) (es : List Event) : PermissionTable :=
  (b.run (Event.actsBefore 1 es)).table

theorem Backends.storeRead_eq (b : Backends) (first : List Act) (rest : List Event) :
    b.storeRead (first.map .other ++ .turn :: rest) = (b.run first).store := by
  rw [storeRead, Event.actsBefore_map_other, Event.actsBefore, List.append_nil]

theorem Backends.storeRead_append (b : Backends) {es : List Event} (h : 0 < Event.turns es)
    (next : List Event) : b.storeRead (es ++ next) = b.storeRead es := by
  rw [storeRead, storeRead, Event.actsBefore_append h]

theorem Backends.tableRead_eq (b : Backends) (first between : List Act) (rest : List Event) :
    b.tableRead (first.map .other ++ .turn :: (between.map .other ++ .turn :: rest)) =
      (b.run (first ++ between)).table := by
  rw [tableRead, Event.actsBefore_map_other, Event.actsBefore, Event.actsBefore_map_other,
    Event.actsBefore, List.append_nil]

/-- The two back ends and a call on them. -/
structure Machine where
  backends : Backends
  stage : Stage

namespace Machine

def step (call : Call) (m : Machine) : Event → Machine
  | .other act => { m with backends := m.backends.after act }
  | .turn => { m with stage := m.stage.turn call m.backends }

def run (call : Call) (m : Machine) (es : List Event) : Machine := es.foldl (step call) m

/-- The call begins. -/
def start (b : Backends) : Machine := ⟨b, .waiting⟩

theorem run_append (call : Call) (m : Machine) (xs ys : List Event) :
    m.run call (xs ++ ys) = (m.run call xs).run call ys :=
  List.foldl_append

/-- A call changes nothing for others. -/
theorem backends_run (call : Call) (m : Machine) (es : List Event) :
    (m.run call es).backends = m.backends.run (Event.acts es) := by
  induction es generalizing m with
  | nil => rfl
  | cons e es ih =>
    rw [run, List.foldl_cons]
    show ((m.step call e).run call es).backends = _
    rw [ih]
    cases e <;> rfl

theorem run_map_other (call : Call) (m : Machine) (xs : List Act) :
    m.run call (xs.map .other) = ⟨m.backends.run xs, m.stage⟩ := by
  induction xs generalizing m with
  | nil => rfl
  | cons act xs ih => exact ih _

/-- A call that nobody interrupts, with what is done before it and what is done after it. -/
theorem run_uninterrupted (call : Call) (b : Backends) (earlier later : List Act) :
    (start b).run call (earlier.map .other ++ .turn :: .turn :: later.map .other) =
      ⟨b.run (earlier ++ later), .told (call.reply (b.run earlier).source)⟩ := by
  rw [run_append, run_map_other]
  show run call ⟨b.run earlier, (Stage.waiting.turn call (b.run earlier)).turn call
    (b.run earlier)⟩ (later.map .other) = _
  rw [run_map_other, Stage.turn_turn_waiting, Backends.run_append]

end Machine

/-- The ways in which a call may have come to its stage: no turn was taken, the first turn found
something and no other was taken, the call was over with the first turn, or with the second. -/
inductive History (call : Call) (b : Backends) : List Event → Stage → Prop where
  | waiting (first : List Act) : History call b (first.map .other) .waiting
  | found (first between : List Act) {standings : List Standing}
      (hread : call.readStore (b.run first).store = .found standings) :
    History call b (first.map .other ++ .turn :: between.map .other) (.found standings)
  | toldAtOnce (first : List Act) (rest : List Event) {reply : Reply}
      (hread : call.readStore (b.run first).store = .told reply) :
    History call b (first.map .other ++ .turn :: rest) (.told reply)
  | told (first between : List Act) (rest : List Event) {standings : List Standing}
      (hread : call.readStore (b.run first).store = .found standings) :
    History call b (first.map .other ++ .turn :: (between.map .other ++ .turn :: rest))
      (.told (.ok (call.readTable (b.run (first ++ between)).table standings)))

namespace History
variable {call : Call} {b : Backends} {es : List Event}

theorem step {stage : Stage} (h : History call b es stage) (e : Event) :
    History call b (es ++ [e]) ((Machine.mk (b.run (Event.acts es)) stage).step call e).stage := by
  cases e with
  | other act =>
    show History call b (es ++ [.other act]) stage
    cases h with
    | waiting first => simpa using waiting (first ++ [act])
    | found first between hread => simpa using found first (between ++ [act]) hread
    | toldAtOnce first rest hread => simpa using toldAtOnce first (rest ++ [.other act]) hread
    | told first between rest hread => simpa using told first between (rest ++ [.other act]) hread
  | turn =>
    show History call b (es ++ [.turn]) (stage.turn call (b.run (Event.acts es)))
    cases h with
    | waiting first =>
      rw [Event.acts_map_other, Stage.turn]
      rcases call.readStore_outcome (b.run first).store with ⟨_, hread, _⟩ | ⟨_, hread, _⟩
      · rw [hread]
        exact toldAtOnce first [] hread
      · rw [hread]
        exact found first [] hread
    | found first between hread =>
      rw [Event.acts_append, Event.acts_turn, Event.acts_map_other, Event.acts_map_other,
        Stage.turn]
      simpa using told first between [] hread
    | toldAtOnce first rest hread => simpa using toldAtOnce first (rest ++ [.turn]) hread
    | told first between rest hread => simpa using told first between (rest ++ [.turn]) hread

/-- Wherever a history has led, what happens next continues it. -/
theorem run {m : Machine} (hbackends : m.backends = b.run (Event.acts es))
    (h : History call b es m.stage) (next : List Event) :
    History call b (es ++ next) (m.run call next).stage := by
  induction next generalizing m es with
  | nil =>
    rw [List.append_nil]
    exact h
  | cons e next ih =>
    have hm : m = ⟨b.run (Event.acts es), m.stage⟩ := by rw [← hbackends]
    have hstep : History call b (es ++ [e]) (m.step call e).stage := by
      rw [hm]
      exact h.step e
    have hafter : (m.step call e).backends = b.run (Event.acts (es ++ [e])) := by
      rw [Event.acts_append, Backends.run_append, ← hbackends]
      exact m.backends_run call [e]
    have hrest := ih hafter hstep
    rw [List.append_assoc] at hrest
    exact hrest

/-- Every run has a history. -/
theorem of_run (call : Call) (b : Backends) (es : List Event) :
    History call b es ((Machine.start b).run call es).stage := by
  have hstart : History call b [] (Machine.start b).stage := waiting []
  exact run (m := .start b) rfl hstart es

/-- Two turns are enough for any call. -/
theorem told_of_two_turns {stage : Stage} (h : History call b es stage)
    (hturns : 2 ≤ Event.turns es) : ∃ reply, stage = .told reply := by
  cases h with
  | waiting first => simp at hturns
  | found first between hread => simp at hturns
  | toldAtOnce first rest hread => exact ⟨_, rfl⟩
  | told first between rest hread => exact ⟨_, rfl⟩

theorem turns_pos {reply : Reply} (h : History call b es (.told reply)) : 0 < Event.turns es := by
  cases h with
  | toldAtOnce first rest hread => simp
  | told first between rest hread => simp

/-- A call that has found something is not over with its first turn. -/
theorem one_lt_turns {reply : Reply} (h : History call b es (.told reply))
    {standings : List Standing} (hfound : call.readStore (b.storeRead es) = .found standings) :
    1 < Event.turns es := by
  cases h with
  | toldAtOnce first rest hread =>
    rw [b.storeRead_eq, hread] at hfound
    cases hfound
  | told first between rest hread => simp

/-- A call is told what an uninterrupted call is told of the store that its first turn read and the
table that its second turn read. If it was over with the first turn, any table will do. -/
theorem reply_eq {reply : Reply} (h : History call b es (.told reply)) :
    reply = call.reply (.inMemory (b.storeRead es) (b.tableRead es)) := by
  cases h with
  | toldAtOnce first rest hread =>
    rw [b.storeRead_eq]
    exact (call.reply_of_told hread _).symm
  | told first between rest hread =>
    rw [b.storeRead_eq, b.tableRead_eq]
    exact (call.reply_of_found hread _).symm

/-- The turn with which a call was over. It was told what the table of that moment granted, and the
call is over in no part of the run that ends before this turn. -/
theorem exists_last_turn {reply : Reply} (h : History call b es (.told reply)) :
    ∃ n, reply = call.reply (.inMemory (b.storeRead es) (b.run (Event.actsBefore n es)).table) ∧
      ∀ done next, es = done ++ next → ∀ reply', History call b done (.told reply') →
        n < Event.turns done := by
  cases h with
  | toldAtOnce first rest hread =>
    refine ⟨0, ?_, ?_⟩
    · rw [b.storeRead_eq]
      exact (call.reply_of_told hread _).symm
    · intro done next _ reply' hdone
      exact hdone.turns_pos
  | @told first between rest standings hread =>
    refine ⟨1, ?_, ?_⟩
    · show _ = call.reply (.inMemory _ (b.tableRead _))
      rw [b.storeRead_eq, b.tableRead_eq]
      exact (call.reply_of_found hread _).symm
    · intro done next heq reply' hdone
      have hstore : b.storeRead done = (b.run first).store := by
        rw [← b.storeRead_append hdone.turns_pos next, ← heq, b.storeRead_eq]
      rw [← hstore] at hread
      exact hdone.one_lt_turns hread

end History

namespace Machine

/-- A call that is over is told the same, and leaves the same back ends, when nobody interrupts it:
the rules that were added between its turns come before it, and the writes come after it. -/
theorem exists_uninterrupted {call : Call} {b : Backends} {es : List Event} {reply : Reply}
    (h : ((start b).run call es).stage = .told reply) :
    ∃ earlier later, Act.SameOrders (earlier ++ later) (Event.acts es) ∧
      Event.actsBefore 0 es <+: earlier ∧
      (∀ done next reply', es = done ++ next → ((start b).run call done).stage = .told reply' →
        Event.acts next <:+ later) ∧
      (start b).run call (earlier.map .other ++ .turn :: .turn :: later.map .other) =
        (start b).run call es := by
  have hhistory := History.of_run call b es
  rw [h] at hhistory
  obtain ⟨n, hreply, hlast⟩ := hhistory.exists_last_turn
  obtain ⟨between, hbetween⟩ := Event.actsBefore_zero_isPrefix n es
  obtain ⟨rest, hrest⟩ := Event.actsBefore_isPrefix n es
  have hsame : Act.SameOrders
      ((Event.actsBefore 0 es ++ (Act.rules between).map .append) ++
        ((Act.writes between).map .write ++ rest)) (Event.acts es) := by
    rw [← hrest, ← hbetween]
    simp [Act.SameOrders]
  refine ⟨Event.actsBefore 0 es ++ (Act.rules between).map .append,
    (Act.writes between).map .write ++ rest, hsame, List.prefix_append _ _, ?_, ?_⟩
  · rintro done next reply' rfl hdone
    have hdone' := History.of_run call b done
    rw [hdone] at hdone'
    have hturns : n < Event.turns done := hlast done next rfl reply' hdone'
    exact (Event.acts_isSuffix hturns hrest).trans (List.suffix_append _ _)
  · have hmoment : reply = call.reply (b.run (Event.actsBefore 0 es ++
        (Act.rules between).map .append)).source := by
      rw [hreply, Backends.run_rules_first, hbetween]
      rfl
    have hend : (start b).run call es = ⟨b.run (Event.acts es), .told reply⟩ := by
      have hbackends : ((start b).run call es).backends = b.run (Event.acts es) :=
        backends_run call (start b) es
      rw [← h, ← hbackends]
    rw [run_uninterrupted, hend, hmoment, b.run_congr hsame]

/-- However its turns and the steps of other clients follow each other, a call is told what an
uninterrupted call is told of the store that its first turn reads and the table that its second turn
reads, and after two turns it is told something. Role, account and business of whatever it is told
are those of this one store, and the actions are those of this one table. They include whatever was
granted to this role at this status at any moment before the second turn. And there is an order of
the same steps, with the writes as they were among themselves and the rules as they were among
themselves, in which nobody interrupts the call, and it ends the same. What was done before the
first turn comes before the call there, and what was done once the call was over comes after it. -/
theorem told_of_one_moment (call : Call) {b : Backends} (h : b.store.Reachable) (es : List Event) :
    (2 ≤ Event.turns es → ∃ reply, ((start b).run call es).stage = .told reply) ∧
      ∀ reply, ((start b).run call es).stage = .told reply →
        reply = call.reply (.inMemory (b.storeRead es) (b.tableRead es)) ∧
        (∀ as, reply = .ok as → ∀ a ∈ as,
          (∃ standing, (b.storeRead es).Tells standing ∧ a = standing.grantedBy (b.tableRead es)) ∧
          ∀ early, early <+: Event.actsBefore 1 es →
            ∀ action ∈ (b.run early).table.actionsFor a.role a.account.status,
              action ∈ a.actions) ∧
        ∃ earlier later, Act.SameOrders (earlier ++ later) (Event.acts es) ∧
          Event.actsBefore 0 es <+: earlier ∧
          (∀ done next reply', es = done ++ next →
            ((start b).run call done).stage = .told reply' → Event.acts next <:+ later) ∧
          (start b).run call (earlier.map .other ++ .turn :: .turn :: later.map .other) =
            (start b).run call es := by
  have hhistory := History.of_run call b es
  refine ⟨hhistory.told_of_two_turns, ?_⟩
  intro reply htold
  rw [htold] at hhistory
  refine ⟨hhistory.reply_eq, ?_, exists_uninterrupted htold⟩
  intro as has a ha
  obtain ⟨standings, hfind, rfl⟩ := Call.exists_find_of_reply (hhistory.reply_eq.symm.trans has)
  obtain ⟨standing, hmem, rfl⟩ := List.mem_map.1 ha
  have hs : (b.storeRead es).Integrity := Backends.integrity_run h.integrity _
  refine ⟨⟨standing, Call.tells_of_find hs hfind hmem, rfl⟩, ?_⟩
  rintro early ⟨between, hbetween⟩ action haction
  show action ∈ (b.run (Event.actsBefore 1 es)).table.actionsFor _ _
  rw [← hbetween, Backends.run_append]
  exact Backends.granted_run haction between

/-- The user `1` asks about the org `1`. -/
def sampleCall : Call := .resolve ⟨some (.user Store.sampleGuid), some (.org ⟨1⟩), none⟩

def sampleRule : PermissionRule := ⟨.admin, none, ⟨"download-reports"⟩⟩

/-- Before the call reads the store the role of the user is changed. Afterwards the user leaves, and
a rule is added before the call reads the table. -/
def sampleEvents : List Event := [
  .other (.write (.changeRole ⟨2⟩ .admin)), .turn, .other (.write (.deactivate ⟨2⟩)),
  .other (.append sampleRule), .turn, .other (.write (.setOrgStatus ⟨1⟩ .nsfSuspended))]

/-- The changed role in the active org, with the action that was added. -/
def sampleTold : Authorization :=
  (⟨.admin, (Org.basic ⟨1⟩ "Acme").account,
    some ⟨"BC0000001", some "BC", none, none⟩⟩ : Standing).grantedBy
      (PermissionTable.seed.push sampleRule)

/-- The user is told the changed role, with all that it was granted when the call began. -/
theorem told_of_one_moment_sample :
    Store.sample.Reachable ∧ 2 ≤ Event.turns sampleEvents ∧
      ((start ⟨.sample, .seed⟩).run sampleCall sampleEvents).stage = .told (.ok [sampleTold]) ∧
      ∀ action ∈ PermissionTable.seed.actionsFor .admin .active, action ∈ sampleTold.actions := by
  have htold : ((start ⟨.sample, .seed⟩).run sampleCall sampleEvents).stage =
      .told (.ok [sampleTold]) := by decide +kernel
  obtain ⟨_, hall⟩ := told_of_one_moment sampleCall (b := ⟨.sample, .seed⟩)
    Store.reachable_sample sampleEvents
  obtain ⟨_, htells, _⟩ := hall _ htold
  refine ⟨Store.reachable_sample, by decide, htold, ?_⟩
  exact (htells _ rfl sampleTold (List.mem_singleton.2 rfl)).2 [] List.nil_prefix

end Machine

end OrgAccess
