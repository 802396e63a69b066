import E2Node.Kpm.Run

namespace E2Node.Kpm

def Phase.Ending (p : Phase) : Prop := p = .failing ∨ p = .releasing

namespace Reporting

variable {k : Service} {s s' : Reporting} {t : ReportTask}

@[simp]
theorem endTask_subscriptions (s : Reporting) (i : TickerId) :
    (s.endTask i).subscriptions = s.subscriptions := rfl

@[simp]
theorem modifyLink_now (s : Reporting) (id : SessionId) (f : Link → Link) :
    (s.modifyLink id f).now = s.now := rfl

theorem mem_setPhase {i : TickerId} {p : Phase} {x : ReportTask} :
    x ∈ (s.setPhase i p).tasks ↔
      (x ∈ s.tasks ∧ x.ticker ≠ i) ∨ ∃ y ∈ s.tasks, y.ticker = i ∧ x = { y with phase := p } := by
  simp only [setPhase, List.mem_map]
  constructor
  · rintro ⟨y, hy, rfl⟩
    split
    · exact .inr ⟨y, hy, ‹_›, rfl⟩
    · exact .inl ⟨hy, ‹_›⟩
  · rintro (⟨hx, hi⟩ | ⟨y, hy, hi, rfl⟩)
    · exact ⟨x, hx, if_neg hi⟩
    · exact ⟨y, hy, if_pos hi⟩

theorem mem_endTask {i : TickerId} {x : ReportTask} :
    x ∈ (s.endTask i).tasks ↔ x ∈ s.tasks ∧ x.ticker ≠ i := by
  simp [endTask]

theorem map_setPhase {α : Type} {g : ReportTask → α} {i : TickerId} {p : Phase}
    (hg : ∀ x : ReportTask, g { x with phase := p } = g x) :
    (s.setPhase i p).tasks.map g = s.tasks.map g := by
  simp only [setPhase, List.map_map]
  apply List.map_congr_left
  intro x _
  simp only [Function.comp]
  split
  · exact hg x
  · rfl

theorem link?_modifyLink (id id' : SessionId) (f : Link → Link) :
    (s.modifyLink id f).link? id' = (s.link? id').map fun l => if id = id' then f l else l := by
  simp only [link?, modifyLink, List.getElem?_modify]
  cases s.links[id'.val]? with
  | none => rfl
  | some l =>
      have h : id.val = id'.val ↔ id = id' := by
        cases id; cases id'; simp
      simp only [h, Option.map_some]
      split <;> rfl

/-- Everything that one step of a task can do. -/
inductive TaskStep (k : Service) (s : Reporting) (t : ReportTask) : Reporting → Prop
  | refused {e : CodecError} (hp : t.phase = .starting)
      (hh : k.codec.header (k.header s.wallClock) = .error e) :
      TaskStep k s t (s.setPhase t.ticker .failing)
  | aborted (hp : t.phase = .starting) (h0 : t.period = 0) :
      TaskStep k s t (s.endTask t.ticker)
  | began {h : List UInt8} (hp : t.phase = .starting)
      (hh : k.codec.header (k.header s.wallClock) = .ok h) (h0 : t.period ≠ 0) :
      TaskStep k s t (s.setPhase t.ticker (.waiting ⟨h, s.now + t.period, 0⟩))
  | stopped {r : Rhythm} (hp : t.phase = .waiting r) (hs : s.tickers.isStopped t.ticker = true) :
      TaskStep k s t (s.endTask t.ticker)
  | lost {r : Rhythm} (hp : t.phase = .waiting r) (hs : s.tickers.isStopped t.ticker = false)
      (hc : s.isClosed t.session = true) : TaskStep k s t (s.setPhase t.ticker .failing)
  | ticked {r : Rhythm} (hp : t.phase = .waiting r) (hs : s.tickers.isStopped t.ticker = false)
      (hc : s.isClosed t.session = false) (hd : r.due ≤ s.now) :
      TaskStep k s t (s.setPhase t.ticker (.looking (r.tick s.now t.period)))
  | gone {r : Rhythm} (hp : t.phase = .looking r)
      (he : (s.subscriptions.entries.get? t.key).bind (s.reportFor k t r) = none) :
      TaskStep k s t (s.endTask t.ticker)
  | unbuilt {r : Rhythm} {e : RequestError} (hp : t.phase = .looking r)
      (he : (s.subscriptions.entries.get? t.key).bind (s.reportFor k t r) = some (.error e)) :
      TaskStep k s t (s.setPhase t.ticker .failing)
  | built {r : Rhythm} {i : Indication} (hp : t.phase = .looking r)
      (he : (s.subscriptions.entries.get? t.key).bind (s.reportFor k t r) = some (.ok i)) :
      TaskStep k s t (s.setPhase t.ticker (.sending r i))
  | unsent {r : Rhythm} {i : Indication} (hp : t.phase = .sending r i)
      (hr : (s.refusal? t.session).isSome = true) : TaskStep k s t (s.setPhase t.ticker .failing)
  | sent {r : Rhythm} {i : Indication} (hp : t.phase = .sending r i)
      (hr : s.refusal? t.session = none) :
      TaskStep k s t (s.setPhase t.ticker (.inFlight r i (s.now + s.sendDelay t.session)))
  | arrived {r : Rhythm} {i : Indication} {done : Nat} (hp : t.phase = .inFlight r i done)
      (hd : done ≤ s.now) :
      TaskStep k s t
        ((s.modifyLink t.session fun l => l.record s.now i).setPhase t.ticker (.waiting r))
  | broke {r : Rhythm} {i : Indication} {done : Nat} (hp : t.phase = .inFlight r i done) :
      TaskStep k s t (s.setPhase t.ticker .failing)
  | silenced (hp : t.phase = .failing) :
      TaskStep k s t ({ s with tickers := s.tickers.stop t.ticker }.setPhase t.ticker .releasing)
  | released (hp : t.phase = .releasing) :
      TaskStep k s t
        ({ s with subscriptions := s.subscriptions.release t.key t.ticker }.endTask t.ticker)

theorem taskStep_of_step? (h : s.step? k t = some s') : TaskStep k s t s' := by
  cases hp : t.phase with
  | starting =>
      simp only [step?, hp] at h
      split at h
      · cases h; exact .refused hp ‹_›
      · split at h
        · cases h; exact .aborted hp ‹_›
        · cases h; exact .began hp ‹_› ‹_›
  | waiting r =>
      simp only [step?, hp] at h
      split at h
      · cases h; exact .stopped hp ‹_›
      · have hs := eq_false_of_ne_true ‹_›
        split at h
        · cases h; exact .lost hp hs ‹_›
        · have hc := eq_false_of_ne_true ‹_›
          split at h
          · cases h; exact .ticked hp hs hc ‹_›
          · cases h
  | looking r =>
      simp only [step?, hp] at h
      split at h
      · cases h; exact .gone hp ‹_›
      · cases h; exact .unbuilt hp ‹_›
      · cases h; exact .built hp ‹_›
  | sending r i =>
      simp only [step?, hp] at h
      split at h
      · cases h; exact .unsent hp ‹_›
      · cases h; exact .sent hp (Option.not_isSome_iff_eq_none.1 ‹_›)
  | inFlight r i done =>
      simp only [step?, hp] at h
      split at h
      · cases h; exact .arrived hp ‹_›
      · cases h
  | failing =>
      simp only [step?, hp, Option.some.injEq] at h
      subst h
      exact .silenced hp
  | releasing =>
      simp only [step?, hp, Option.some.injEq] at h
      subst h
      exact .released hp

theorem cut?_eq_some_iff : s.cut? t = some s' ↔
    (∃ r i done, t.phase = .inFlight r i done) ∧ s' = s.setPhase t.ticker .failing := by
  rw [cut?]
  cases t.phase <;> simp [eq_comm]

theorem taskStep_of_cut? (k : Service) (h : s.cut? t = some s') : TaskStep k s t s' := by
  obtain ⟨⟨r, i, done, hp⟩, rfl⟩ := cut?_eq_some_iff.1 h
  exact .broke hp

theorem step?_eq_none_iff : s.step? k t = none ↔
    (∃ r, t.phase = .waiting r ∧ s.tickers.isStopped t.ticker = false ∧
      s.isClosed t.session = false ∧ s.now < r.due) ∨
      ∃ r i done, t.phase = .inFlight r i done ∧ s.now < done := by
  cases hp : t.phase with
  | starting =>
      simp only [step?, hp]
      split
      · simp
      · split <;> simp
  | waiting r =>
      by_cases hs : s.tickers.isStopped t.ticker <;> by_cases hc : s.isClosed t.session <;>
        simp [step?, hp, hs, hc]
  | looking r =>
      simp only [step?, hp]
      split <;> simp
  | sending r i =>
      simp only [step?, hp]
      split <;> simp
  | inFlight r i done =>
      simp only [step?, hp, ite_eq_right_iff, reduceCtorEq, imp_false, Nat.not_le, false_and,
        exists_false, false_or, Phase.inFlight.injEq]
      constructor
      · intro h
        exact ⟨r, i, done, ⟨rfl, rfl, rfl⟩, h⟩
      · rintro ⟨_, _, _, ⟨_, _, rfl⟩, h⟩
        exact h
  | failing => simp [step?, hp]
  | releasing => simp [step?, hp]

def Settled (k : Service) (s : Reporting) : Prop := ∀ t ∈ s.tasks, s.step? k t = none

end Reporting

end E2Node.Kpm
