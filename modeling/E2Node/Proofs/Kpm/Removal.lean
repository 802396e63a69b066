import E2Node.Proofs.Kpm.Overlap

namespace E2Node.Kpm.Overlap

variable {c c' d : Overlap} {e : Event} {es fs : List Event} {k : Service} {s s' : Reporting}
  {t x : ReportTask} {key : SubscriptionKey} {i : TickerId} {u : Subscription}

def Event.admission? : Event → Option (SubscriptionKey × TickerId)
  | .admitted key i => some (key, i)
  | _ => none

def admissions (es : List Event) : List (SubscriptionKey × TickerId) :=
  es.filterMap Event.admission?

structure Accounted (es : List Event) (c : Overlap) : Prop where
  given : ∀ a ∈ admissions es, a.2.val < c.reporting.tickers.created
  once : ((admissions es).map Prod.snd).Nodup
  entries : ∀ key u, c.stored? key = some u → ∃ i, u.ticker = some i ∧ (key, i) ∈ admissions es
  tasks : ∀ t ∈ c.reporting.tasks, (t.key, t.ticker) ∈ admissions es

theorem admissions_append_of_none (he : e.admission? = none) :
    admissions (es ++ [e]) = admissions es := by
  simp [admissions, he]

theorem event_admission? (t : ReportTask) : (event t).admission? = none := by
  rw [event]
  cases t.phase <;> rfl

theorem Accounted.keep (h : Accounted es c) (he : e.admission? = none)
    (hc : c'.reporting.tickers.created = c.reporting.tickers.created)
    (hu : ∀ key u, c'.stored? key = some u → c.stored? key = some u)
    (ht : ∀ x ∈ c'.reporting.tasks, ∃ y ∈ c.reporting.tasks, x = { y with phase := x.phase }) :
    Accounted (es ++ [e]) c' := by
  refine ⟨?_, ?_, ?_, ?_⟩ <;> rw [admissions_append_of_none he]
  · rw [hc]
    exact h.given
  · exact h.once
  · intro key u hk
    exact h.entries key u (hu key u hk)
  · intro x hx
    obtain ⟨y, hy, hxy⟩ := ht x hx
    rw [hxy]
    exact h.tasks y hy

theorem Accounted.happens (h : Accounted es c) (hh : Happens c e c') :
    Accounted (es ++ [e]) c' := by
  have same (x : ReportTask) (hx : x ∈ c.reporting.tasks) :
      ∃ y ∈ c.reporting.tasks, x = { y with phase := x.phase } := ⟨x, hx, rfl⟩
  cases hh with
  | @task k t s ht hs =>
      have hs := Reporting.taskStep_of_step? hs
      refine h.keep (event_admission? t) hs.created_eq (fun _ _ => hs.get?_of_some) fun x hx => ?_
      obtain ⟨y, hy, hxy, -⟩ := hs.origin hx
      exact ⟨y, hy, hxy⟩
  | breaks ht hs =>
      obtain ⟨-, rfl⟩ := Reporting.cut?_eq_some_iff.1 hs
      refine h.keep rfl rfl (fun _ _ => id) fun x hx => ?_
      rcases Reporting.mem_setPhase.1 hx with ⟨hx, -⟩ | ⟨y, hy, -, rfl⟩
      · exact same x hx
      · exact ⟨y, hy, rfl⟩
  | admits k id r hm =>
      obtain ⟨-, accepted, refused, period, hs⟩ := admission_cases hm
      have ha : admissions (es ++ [.admitted (.of r.request r.function) c.reporting.tickers.next]) =
          admissions es ++ [(.of r.request r.function, c.reporting.tickers.next)] := by
        rw [admissions, List.filterMap_append]
        rfl
      refine ⟨?_, ?_, ?_, ?_⟩ <;> rw [ha]
      · intro a hm
        rw [hs]
        rcases List.mem_append.1 hm with hm | hm
        · exact Nat.lt_succ_of_lt (h.given a hm)
        · rw [List.mem_singleton.1 hm]
          exact Nat.lt_succ_self _
      · rw [List.map_append, List.map_singleton]
        refine List.nodup_append.2 ⟨h.once, List.nodup_singleton _, fun i hi j hj hij => ?_⟩
        obtain ⟨a, hm, rfl⟩ := List.mem_map.1 hi
        have hlt := h.given a hm
        rw [hij, List.mem_singleton.1 hj] at hlt
        exact Nat.lt_irrefl _ hlt
      · intro key u hu
        rw [stored?, hs, Table.get?_insert] at hu
        split at hu
        · rename_i hk
          cases hu
          exact ⟨_, rfl, hk ▸ List.mem_append_right _ List.mem_cons_self⟩
        · obtain ⟨i, hi, hm⟩ := h.entries key u hu
          exact ⟨i, hi, List.mem_append_left _ hm⟩
      · intro x hx
        rw [hs] at hx
        rcases List.mem_append.1 hx with hx | hx
        · exact List.mem_append_left _ (h.tasks x hx)
        · rw [List.mem_singleton.1 hx]
          exact List.mem_append_right _ List.mem_cons_self
  | removes hr =>
      obtain ⟨-, rfl⟩ := Reporting.take_eq_ok_iff.1 hr
      refine h.keep rfl rfl (fun key u hu => ?_) same
      rw [stored?, Table.get?_erase] at hu
      split at hu
      · cases hu
      · exact hu
  | @stops before u after hd =>
      refine h.keep rfl (Reporting.silence_created _ u) (fun key v hv => ?_) fun x hx => ?_
      · rwa [stored?, Reporting.silence_subscriptions] at hv
      · rw [Reporting.silence_tasks] at hx
        exact same x hx
  | around => exact h.keep rfl rfl (fun _ _ => id) same

theorem Course.accounted {p : Population} {epoch : Int} (hc : Course (start p epoch) es c) :
    Accounted es c := by
  induction hc with
  | refl =>
      refine ⟨nofun, List.nodup_nil, fun key u hu => ?_, nofun⟩
      cases hu
  | tail _ hh ih => exact ih.happens hh

inductive SendEnd
  | begun
  | done
  deriving DecidableEq

def Event.isSend (m : SendEnd) (i : TickerId) : Event → Bool
  | .handed j _ => m = .begun && j = i
  | .arrived j => m = .done && j = i
  | _ => false

/-- How many sends of a task can still begin, or be done, before it looks at its ticker. -/
def left (m : SendEnd) : Phase → Nat
  | .looking _ | .sending .. => 1
  | .inFlight .. => if m = .done then 1 else 0
  | _ => 0

theorem left_le_one (m : SendEnd) (p : Phase) : left m p ≤ 1 := by
  cases p with
  | inFlight => simp only [left]; split <;> decide
  | looking | sending => exact Nat.le_refl 1
  | starting | waiting | failing | releasing => exact Nat.zero_le 1

theorem isSend_event_of_ne (m : SendEnd) (hne : t.ticker ≠ i) :
    (event t).isSend m i = false := by
  rw [event]
  cases t.phase <;> simp [Event.isSend, hne]

theorem phase_of_mem_setPhase {p : Phase} (hx : x ∈ (s.setPhase i p).tasks) (hi : x.ticker = i) :
    x.phase = p := by
  rcases Reporting.mem_setPhase.1 hx with ⟨-, hne⟩ | ⟨y, -, -, rfl⟩
  · exact absurd hi hne
  · rfl

theorem left_of_setPhase {m : SendEnd} {p : Phase} {sent before : Nat}
    (hp : left m p + sent ≤ before) : sent ≤ before ∧
      ∀ x ∈ (s.setPhase i p).tasks, x.ticker = i → left m x.phase + sent ≤ before := by
  refine ⟨Nat.le_trans (Nat.le_add_left _ _) hp, fun x hx hi => ?_⟩
  rw [phase_of_mem_setPhase hx hi]
  exact hp

theorem left_of_endTask {m : SendEnd} {sent before : Nat} (hp : sent ≤ before) : sent ≤ before ∧
    ∀ x ∈ (s.endTask i).tasks, x.ticker = i → left m x.phase + sent ≤ before := by
  refine ⟨hp, fun x hx hi => ?_⟩
  exact absurd hi (Reporting.mem_endTask.1 hx).2

theorem left_of_taskStep (m : SendEnd) (h : Reporting.TaskStep k s t s')
    (hi : t.ticker ∈ s.tickers.stopped) :
    ((event t).isSend m t.ticker).toNat ≤ left m t.phase ∧
      ∀ x ∈ s'.tasks, x.ticker = t.ticker →
        left m x.phase + ((event t).isSend m t.ticker).toNat ≤ left m t.phase := by
  cases h with
  | refused hp | began hp | lost hp | unbuilt hp | built hp | unsent hp | sent hp | arrived hp
  | broke hp | silenced hp =>
      apply left_of_setPhase
      cases m <;> simp [event, hp, left, Event.isSend]
  | aborted hp | stopped hp | gone hp | released hp =>
      apply left_of_endTask
      simp [event, hp, Event.isSend]
  | ticked hp hs =>
      simp [Tickers.isStopped, hi] at hs

theorem Happens.stopped_mono (hh : Happens c e c') (hi : i ∈ c.reporting.tickers.stopped) :
    i ∈ c'.reporting.tickers.stopped := by
  cases hh with
  | task k ht hs => exact (Reporting.taskStep_of_step? hs).stopped_mono hi
  | admits k id r hm =>
      obtain ⟨-, _, _, _, hs⟩ := admission_cases hm
      rw [hs]
      exact hi
  | removes hr =>
      obtain ⟨-, rfl⟩ := Reporting.take_eq_ok_iff.1 hr
      exact hi
  | stops => exact (Reporting.mem_silence_stopped _ _ i).2 (.inr hi)
  | breaks ht hs =>
      obtain ⟨-, rfl⟩ := Reporting.cut?_eq_some_iff.1 hs
      exact hi
  | around => exact hi

theorem Happens.deleted (hh : Happens c e c') (he : e = .deleted (some i)) :
    i ∈ c'.reporting.tickers.stopped := by
  cases hh with
  | @task k t s ht hs =>
      rw [event] at he
      cases hp : t.phase <;> simp [hp] at he
  | stops =>
      injection he with hi
      exact (Reporting.mem_silence_stopped _ _ i).2 (.inl hi)
  | breaks | admits | removes | around => cases he

theorem Course.stopped (hc : Course c es d) (hi : Event.deleted (some i) ∈ es) :
    i ∈ d.reporting.tickers.stopped := by
  induction hc with
  | refl => cases hi
  | tail _ hh ih =>
      rcases List.mem_append.1 hi with hi | hi
      · exact hh.stopped_mono (ih hi)
      · exact hh.deleted (List.mem_singleton.1 hi).symm

theorem Happens.admitted (hh : Happens c e c') (he : e = .admitted key i) :
    c.stored? key = none ∧ (∃ u, c'.stored? key = some u ∧ u.ticker = some i) ∧
      ∃ t, t.key = key ∧ t.ticker = i ∧ c'.reporting.tasks = c.reporting.tasks ++ [t] := by
  cases hh with
  | @task k t s ht hs =>
      rw [event] at he
      cases hp : t.phase <;> simp [hp] at he
  | admits k id r hm =>
      obtain ⟨hf, accepted, refused, period, hs⟩ := admission_cases hm
      injection he with hk hi
      subst hk hi
      rw [stored?, stored?, hs]
      refine ⟨hf, ⟨_, by rw [Table.get?_insert, if_pos rfl], rfl⟩, _, rfl, rfl, rfl⟩
  | breaks | stops | removes | around => cases he

/-- What a task whose ticker is stopped has sent, with what it has left. -/
structure Spent (m : SendEnd) (i : TickerId) (n : Nat) (c : Overlap) : Prop where
  stopped : i ∈ c.reporting.tickers.stopped
  le_one : n ≤ 1
  left_le : ∀ x ∈ c.reporting.tasks, x.ticker = i → left m x.phase + n ≤ 1

theorem Spent.happens {m : SendEnd} {n : Nat} (h : Spent m i n c) (hh : Happens c e c') :
    Spent m i (n + (e.isSend m i).toNat) c' := by
  have hs := hh.stopped_mono h.stopped
  cases hh with
  | @task k t s ht hstep =>
      have hstep := Reporting.taskStep_of_step? hstep
      by_cases hi : t.ticker = i
      · subst hi
        have hl := h.left_le t ht rfl
        obtain ⟨he, hx⟩ := left_of_taskStep m hstep h.stopped
        refine ⟨hs, by omega, fun x hm hi => ?_⟩
        have := hx x hm hi
        omega
      · rw [isSend_event_of_ne m hi]
        refine ⟨hs, h.le_one, fun x hm hx => h.left_le x (hstep.mem_of_ne hm ?_) hx⟩
        rw [hx]
        exact Ne.symm hi
  | breaks ht hcut =>
      obtain ⟨-, rfl⟩ := Reporting.cut?_eq_some_iff.1 hcut
      refine ⟨hs, h.le_one, fun x hm hx => ?_⟩
      rcases Reporting.mem_setPhase.1 hm with ⟨hm, -⟩ | ⟨y, -, -, rfl⟩
      · exact h.left_le x hm hx
      · exact Nat.le_trans (Nat.le_of_eq (Nat.zero_add _)) h.le_one
  | admits k id r hm =>
      obtain ⟨-, accepted, refused, period, he⟩ := admission_cases hm
      refine ⟨hs, h.le_one, fun x hx hi => ?_⟩
      rw [he] at hx
      rcases List.mem_append.1 hx with hx | hx
      · exact h.left_le x hx hi
      · rw [List.mem_singleton.1 hx]
        exact Nat.le_trans (Nat.le_of_eq (Nat.zero_add _)) h.le_one
  | stops =>
      refine ⟨hs, h.le_one, fun x hx hi => ?_⟩
      rw [Reporting.silence_tasks] at hx
      exact h.left_le x hx hi
  | removes hr =>
      obtain ⟨-, rfl⟩ := Reporting.take_eq_ok_iff.1 hr
      exact ⟨hs, h.le_one, h.left_le⟩
  | around => exact ⟨hs, h.le_one, h.left_le⟩

theorem Course.spent (hc : Course c fs d) (m : SendEnd) (hi : i ∈ c.reporting.tickers.stopped) :
    Spent m i (fs.countP (Event.isSend m i)) d := by
  induction hc with
  | refl => exact ⟨hi, Nat.zero_le 1, fun x _ _ => left_le_one m x.phase⟩
  | @tail es e d d' _ hh ih =>
      have h := ih.happens hh
      rw [List.countP_append, List.countP_singleton]
      cases he : e.isSend m i <;> simpa [he] using h

/-- However requests and tasks overlap, an entry stays until a delete request for its key takes it
or the task of its own admission exits: admissions have tickers of their own, which the entry and
the task of each share. Once a delete request has returned, the task it stopped begins at most one
more send, and at most one more is done. -/
theorem entries_removed_by_own {p : Population} {epoch : Int}
    (hc : Course (start p epoch) es c) :
    ((admissions es).map Prod.snd).Nodup ∧
    (∀ key i c', Happens c (.admitted key i) c' → c.stored? key = none ∧
      (∃ u, c'.stored? key = some u ∧ u.ticker = some i) ∧
      ∃ t, t.key = key ∧ t.ticker = i ∧ c'.reporting.tasks = c.reporting.tasks ++ [t]) ∧
    (∀ t ∈ c.reporting.tasks, (t.key, t.ticker) ∈ admissions es) ∧
    (∀ e c' key u, Happens c e c' → c.stored? key = some u →
      c'.stored? key = some u ∨ c'.stored? key = none ∧ (e = .removed key ∨
        ∃ t ∈ c.reporting.tasks, u.ticker = some t.ticker ∧ (key, t.ticker) ∈ admissions es ∧
          e = .exited t.ticker)) ∧
    ∀ i fs d m, Event.deleted (some i) ∈ es → Course c fs d →
      fs.countP (Event.isSend m i) ≤ 1 := by
  have ha := hc.accounted
  refine ⟨ha.once, fun key i c' hh => hh.admitted rfl, ha.tasks, fun e c' key u hh hu => ?_,
    fun i fs d m hi hf => (hf.spent m (hc.stopped hi)).le_one⟩
  rcases hh.entry hu with h | ⟨hn, he | ⟨t, ht, hk, hi, he⟩⟩
  · exact .inl h
  · exact .inr ⟨hn, .inl he⟩
  · exact .inr ⟨hn, .inr ⟨t, ht, hi, hk ▸ ha.tasks t ht, he⟩⟩

/-- A subscription is deleted while its task sends, and made again. Then the send fails. -/
theorem late_failure_keeps_entry :
    let r : SubscriptionRequest := ⟨⟨1, 2⟩, functionId, [100, 0, 0, 0], [⟨⟨5⟩, .report, none⟩]⟩
    let key := SubscriptionKey.of r.request r.function
    ∃ es c₁ c₂ d u, Course (start .empty 0) (es ++ [.removed key, .deleted (some ⟨0⟩)]) c₁ ∧
      Course c₁ [.admitted key ⟨1⟩, .other, .other] c₂ ∧ Happens c₂ (.exited ⟨0⟩) d ∧
      u.ticker = some ⟨1⟩ ∧ c₂.stored? key = some u ∧ d.stored? key = some u ∧
      ∀ fs d' m, Course c₁ fs d' → fs.countP (Event.isSend m ⟨0⟩) ≤ 1 := by
  intro r key
  let k : Service := ⟨⟨⟨1⟩, ⟨⟨1, 3, 8⟩, ⟨4, 2, 6⟩, 3⟩⟩, .standard, []⟩
  let s₀ : Reporting := { Reporting.start .empty 0 with links := [.fresh false 5] }
  let s₁ := (k.subscription ⟨0⟩ r s₀).2.run k 10
  let s₂ := (s₁.atTime 100).run k 10
  let s₃ := (Service.delete ⟨r.request, r.function⟩ s₂).2
  let s₄ := (k.subscription ⟨0⟩ r s₃).2
  let u (i : TickerId) : Subscription := ⟨key, [⟨5⟩], .none, ⟨0⟩, some i⟩
  obtain ⟨es₁, h₁⟩ := run_course k 10 ⟨(k.subscription ⟨0⟩ r s₀).2, []⟩
  obtain ⟨es₂, h₂⟩ := run_course k 10 ⟨s₁.atTime 100, []⟩
  have h₀ : Course (start .empty 0) [.other, .admitted key ⟨0⟩]
      ⟨(k.subscription ⟨0⟩ r s₀).2, []⟩ :=
    (Course.refl.tail (.around 0 [.fresh false 5] .empty)).tail (.admits k ⟨0⟩ r rfl)
  obtain ⟨es, hs₂⟩ : ∃ es, Course (start .empty 0) es ⟨s₂, []⟩ :=
    ⟨_, ((h₀.trans h₁).tail (.around 100 s₁.links s₁.population)).trans h₂⟩
  have hg : s₂.subscriptions.entries.get? key = some (u ⟨0⟩) := by decide
  have hc₁ : Course (start .empty 0) (es ++ [.removed key, .deleted (some ⟨0⟩)]) ⟨s₃, []⟩ :=
    hs₂.trans (delete_course (r := ⟨r.request, r.function⟩) hg [])
  have hadm : Happens ⟨s₃, []⟩ (.admitted key ⟨1⟩) ⟨s₄, []⟩ := by
    have hn : s₃.tickers.next = ⟨1⟩ := by decide
    rw [← hn]
    exact .admits k ⟨0⟩ r (m := ⟨r.request, r.function, [⟨5⟩], []⟩) (by decide)
  have hu : s₄.subscriptions.entries.get? key = some (u ⟨1⟩) := by decide
  obtain ⟨t, ht, hi, hk, hp⟩ : ∃ t ∈ s₄.tasks, t.ticker = ⟨0⟩ ∧ t.key = key ∧
      (s₄.cut? t).isSome = true := by
    decide
  obtain ⟨s, hp⟩ := Option.isSome_iff_exists.1 hp
  clear_value s₄ s₃ s₂ s₁
  obtain ⟨key', session, period, ticker, phase⟩ := t
  obtain rfl : key' = key := hk
  obtain rfl : ticker = ⟨0⟩ := hi
  let s₅ := s₄.setPhase ⟨0⟩ .failing
  let s₆ := { s₅ with tickers := s₅.tickers.stop ⟨0⟩ }.setPhase ⟨0⟩ .releasing
  have ht₅ : ⟨key, session, period, ⟨0⟩, .failing⟩ ∈ s₅.tasks :=
    Reporting.mem_setPhase.2 (.inr ⟨_, ht, rfl, rfl⟩)
  have ht₆ : ⟨key, session, period, ⟨0⟩, .releasing⟩ ∈ s₆.tasks :=
    Reporting.mem_setPhase.2 (.inr ⟨_, ht₅, rfl, rfl⟩)
  obtain ⟨-, rfl⟩ := Reporting.cut?_eq_some_iff.1 hp
  have hbreak : Happens ⟨s₄, []⟩ .other ⟨s₅, []⟩ := .breaks ht hp
  have hstop : Happens ⟨s₅, []⟩ .other ⟨s₆, []⟩ :=
    .task k (t := ⟨key, session, period, ⟨0⟩, .failing⟩) ht₅ rfl
  have hexit : Happens ⟨s₆, []⟩ (.exited ⟨0⟩)
      ⟨{ s₆ with subscriptions := s₆.subscriptions.release key ⟨0⟩ }.endTask ⟨0⟩, []⟩ :=
    .task k (t := ⟨key, session, period, ⟨0⟩, .releasing⟩) ht₆ rfl
  have hc₂ := ((Course.refl.tail hadm).tail hbreak).tail hstop
  obtain ⟨-, -, -, -, hcount⟩ := entries_removed_by_own hc₁
  obtain ⟨-, -, -, hstay, -⟩ := entries_removed_by_own (hc₁.trans hc₂)
  refine ⟨es, _, _, _, u ⟨1⟩, hc₁, hc₂, hexit, rfl, hu, ?_,
    fun fs d' m => hcount ⟨0⟩ fs d' m (by simp)⟩
  rcases hstay _ _ key _ hexit hu with h | ⟨-, he | ⟨t, -, hi, -, he⟩⟩
  · exact h
  · cases he
  · injection he with ht
    rw [← ht] at hi
    cases hi

end E2Node.Kpm.Overlap
