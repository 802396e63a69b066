import E2Node.Proofs.Kpm.Attribution
import E2Node.Proofs.Kpm.Building

namespace E2Node.Kpm

def Phase.rhythm? : Phase → Option Rhythm
  | .waiting r | .looking r | .sending r _ | .inFlight r _ _ => some r
  | _ => none

structure ReportTask.Sturdy (t : ReportTask) : Prop where
  period : t.period ≠ 0
  function : ¬ RanFunctionId.max < t.key.function.val
  header : ∀ r, t.phase.rhythm? = some r → r.header.length = headerLength

namespace Reporting

variable {k : Service} {s s' : Reporting} {t x : ReportTask} {r : Rhythm}

theorem TaskStep.mem (h : TaskStep k s t s') (hx : x ∈ s.tasks) (hne : x.ticker ≠ t.ticker) :
    x ∈ s'.tasks := by
  cases h with
  | refused | began | lost | ticked | unbuilt | built | unsent | sent | arrived | broke
  | silenced =>
      exact mem_setPhase.2 (.inl ⟨hx, hne⟩)
  | aborted | stopped | gone | released => exact mem_endTask.2 ⟨hx, hne⟩

theorem TaskStep.tickers (h : TaskStep k s t s') :
    (s'.tasks.map ReportTask.ticker).Sublist (s.tasks.map ReportTask.ticker) := by
  cases h with
  | refused | began | lost | ticked | unbuilt | built | unsent | sent | broke | silenced =>
      rw [map_setPhase (g := ReportTask.ticker) fun _ => rfl]
  | arrived =>
      rw [map_setPhase (g := ReportTask.ticker) fun _ => rfl]
      exact .refl _
  | aborted | stopped | gone | released => exact List.filter_sublist.map _

end Reporting

namespace Overlap

variable {c c' : Overlap} {e : Event} {es : List Event} {k : Service} {s s' : Reporting}
  {t x y : ReportTask} {key : SubscriptionKey} {i : TickerId} {u : Subscription} {ss : List Step}
  {a : Step} {p : Population} {epoch : Int} {r : Rhythm}

inductive Step.Standard : Step → Prop
  | task {c : Overlap} {t s} (k : Service) (hk : k.codec = .standard)
      (ht : t ∈ c.reporting.tasks) (hs : c.reporting.step? k t = some s) :
      Standard ⟨c, Overlap.event t, { c with reporting := s }⟩
  | breaks {c : Overlap} {t s} (ht : t ∈ c.reporting.tasks)
      (hs : c.reporting.cut? t = some s) : Standard ⟨c, .other, { c with reporting := s }⟩
  | admits {c : Overlap} (k : Service) (hk : k.codec = .standard) (id) (r) {m}
      (hm : (k.subscription id r c.reporting).1 = .ok (.success m)) :
      Standard ⟨c, .admitted (.of r.request r.function) c.reporting.tickers.next,
        { c with reporting := (k.subscription id r c.reporting).2 }⟩
  | apart {c c' : Overlap} {e : Event} (ht : c'.reporting.tasks = c.reporting.tasks) :
      Standard ⟨c, e, c'⟩

theorem run_standard (hk : k.codec = .standard) (n : Nat) (c : Overlap) :
    ∃ ss, Trace c ss { c with reporting := c.reporting.run k n } ∧ ∀ a ∈ ss, a.Standard := by
  refine Reporting.run_keeps (P := fun s => ∃ ss, Trace c ss { c with reporting := s } ∧
    ∀ a ∈ ss, a.Standard) (fun s t s' ht hs h => ?_) n ⟨[], .refl, nofun⟩
  obtain ⟨ss, h, ha⟩ := h
  exact ⟨_, h.tail (.task k ht hs), List.forall_mem_append.2
    ⟨ha, List.forall_mem_singleton.2 (.task (c := { c with reporting := s }) k hk ht hs)⟩⟩

theorem admission_grounds {id : SessionId} {q : SubscriptionRequest} {m : SubscriptionResponse}
    (hm : (k.subscription id q s).1 = .ok (.success m)) : q.WellFormed ∧ reportIds q.actions ≠ [] ∧
      ∃ trigger, k.codec.readTrigger q.eventTrigger = .ok trigger ∧
        (k.subscription id q s).2 = { s with
          subscriptions := ⟨s.subscriptions.entries.insert (.of q.request q.function)
            ⟨.of q.request q.function, reportIds q.actions, refusals q.actions, id,
              some s.tickers.next⟩⟩
          tickers := s.tickers.create
          tasks := s.tasks ++ [⟨.of q.request q.function, id, trigger.periodMillis.toNat,
            s.tickers.next, .starting⟩] } := by
  obtain ⟨o, h⟩ := exists_decision k id q s
  rw [h.eq] at hm ⊢
  cases h with
  | admitted hw ha ht => exact ⟨hw, ha, _, ht, rfl⟩
  | malformed | unreportable | untimed | taken => cases hm

theorem rhythm_of_taskStep (h : Reporting.TaskStep k s t s') (hx : x ∈ s'.tasks)
    (hi : x.ticker = t.ticker) (hr : x.phase.rhythm? = some r) :
    k.codec.header (k.header s.wallClock) = .ok r.header ∨
      ∃ r', t.phase.rhythm? = some r' ∧ r.header = r'.header := by
  cases h with
  | aborted | stopped | gone | released => exact absurd hi (Reporting.mem_endTask.1 hx).2
  | began hp hh =>
      rw [phase_of_mem_setPhase hx hi] at hr
      cases hr
      exact .inl hh
  | ticked hp | built hp | sent hp | arrived hp =>
      rw [phase_of_mem_setPhase hx hi] at hr
      cases hr
      exact .inr ⟨_, congrArg Phase.rhythm? hp, rfl⟩
  | refused | lost | unbuilt | unsent | broke | silenced =>
      rw [phase_of_mem_setPhase hx hi] at hr
      cases hr

theorem Step.Standard.sturdy (ha : a.Standard) (h : ∀ t ∈ a.before.reporting.tasks, t.Sturdy) :
    ∀ t ∈ a.after.reporting.tasks, t.Sturdy := by
  intro x hx
  cases ha with
  | @task c t s k hk ht hs =>
      have hs := Reporting.taskStep_of_step? hs
      obtain ⟨y, hy, hxy, hne⟩ := hs.origin hx
      have hp : x.period = y.period := by rw [hxy]
      have hk' : x.key = y.key := by rw [hxy]
      refine ⟨hp ▸ (h y hy).period, hk' ▸ (h y hy).function, fun r hr => ?_⟩
      by_cases hi : x.ticker = t.ticker
      · rcases rhythm_of_taskStep hs hx hi hr with hh | ⟨r', hr', he⟩
        · obtain ⟨bytes, hb, hl⟩ := header_built hk c.reporting.wallClock
          cases hh.symm.trans hb
          exact hl
        · rw [he]
          exact (h t ht).header r' hr'
      · rw [hne hi] at hr
        exact (h y hy).header r hr
  | breaks ht hs =>
      obtain ⟨-, rfl⟩ := Reporting.cut?_eq_some_iff.1 hs
      rcases Reporting.mem_setPhase.1 hx with ⟨hx, -⟩ | ⟨y, hy, -, rfl⟩
      · exact h x hx
      · exact ⟨(h y hy).period, (h y hy).function, nofun⟩
  | @admits c k hk id q m hm =>
      obtain ⟨hw, -, trigger, ht, hs⟩ := admission_grounds hm
      rw [hs] at hx
      rcases List.mem_append.1 hx with hx | hx
      · exact h x hx
      · rw [List.mem_singleton.1 hx]
        refine ⟨fun h0 => ?_, SubscriptionRequest.inRange_iff.2 hw.inRange, nofun⟩
        rw [hk] at ht
        exact readTrigger_refusesZero ht (UInt32.toNat_inj.1 h0)
  | apart ht => exact h x (ht ▸ hx)

theorem Trace.sturdy (ht : Trace (start p epoch) ss c) (hs : ∀ a ∈ ss, a.Standard) :
    ∀ t ∈ c.reporting.tasks, t.Sturdy := by
  induction ht with
  | refl => exact nofun
  | tail _ _ ih =>
      have hs := List.forall_mem_append.1 hs
      exact (List.forall_mem_singleton.1 hs.2).sturdy (ih hs.1)

theorem Trace.accepts (ht : Trace (start p epoch) ss c) (hu : c.stored? key = some u) :
    u.accepted ≠ [] := by
  induction ht with
  | refl => cases hu
  | tail _ hh ih =>
      rcases hh.of_stored hu with ho | ⟨he, -⟩
      · exact ih ho
      · cases hh with
        | admits k id q hm =>
            obtain ⟨-, ha, _, -, hs⟩ := admission_grounds hm
            rw [stored?, hs, Table.get?_insert] at hu
            split at hu
            · cases hu
              exact ha
            · exact ih hu
        | @task k t s =>
            have hn := event_admission? t
            rw [he] at hn
            cases hn
        | breaks | removes | stops | around => cases he

structure Ticketed (c : Overlap) : Prop where
  tasks : (c.reporting.tasks.map ReportTask.ticker).Nodup
  stopped : ∀ i ∈ c.reporting.tickers.stopped, i.val < c.reporting.tickers.created
  deleting : ∀ u ∈ c.deleting, ∀ i, u.ticker = some i → i.val < c.reporting.tickers.created

theorem Ticketed.eq (h : Ticketed c) (hx : x ∈ c.reporting.tasks) (hy : y ∈ c.reporting.tasks)
    (he : x.ticker = y.ticker) : x = y := List.inj_on_of_nodup_map h.tasks hx hy he

theorem Ticketed.happens (h : Ticketed c) (ha : Accounted es c) (hh : Happens c e c') :
    Ticketed c' := by
  cases hh with
  | @task k t s ht hs =>
      have hs := Reporting.taskStep_of_step? hs
      have hc : s.tickers.created = c.reporting.tickers.created := hs.created_eq
      refine ⟨h.tasks.sublist hs.tickers, fun i hi => ?_, ?_⟩
      · show i.val < s.tickers.created
        rw [hc]
        by_cases hit : i = t.ticker
        · rw [hit]
          exact ha.given _ (ha.tasks t ht)
        · exact h.stopped i (hs.stopped_of_ne hit hi)
      · show ∀ u ∈ c.deleting, ∀ i, u.ticker = some i → i.val < s.tickers.created
        rw [hc]
        exact h.deleting
  | breaks ht hs =>
      obtain ⟨-, rfl⟩ := Reporting.cut?_eq_some_iff.1 hs
      refine ⟨?_, h.stopped, h.deleting⟩
      rw [Reporting.map_setPhase (g := ReportTask.ticker) fun _ => rfl]
      exact h.tasks
  | admits k id q hm =>
      obtain ⟨-, accepted, refused, period, hs⟩ := admission_cases hm
      rw [hs]
      refine ⟨?_, fun i hi => Nat.lt_succ_of_lt (h.stopped i hi),
        fun u hu i hi => Nat.lt_succ_of_lt (h.deleting u hu i hi)⟩
      rw [List.map_append, List.map_singleton]
      refine List.nodup_append.2 ⟨h.tasks, List.nodup_singleton _, fun i hi j hj hij => ?_⟩
      obtain ⟨x, hx, rfl⟩ := List.mem_map.1 hi
      have hlt := ha.given _ (ha.tasks x hx)
      rw [hij, List.mem_singleton.1 hj] at hlt
      exact Nat.lt_irrefl _ hlt
  | @removes key u _ hr =>
      obtain ⟨hg, rfl⟩ := Reporting.take_eq_ok_iff.1 hr
      refine ⟨h.tasks, h.stopped, fun v hv i hi => ?_⟩
      rcases List.mem_cons.1 hv with rfl | hv
      · obtain ⟨j, hj, hm⟩ := ha.entries key v hg
        cases hj.symm.trans hi
        exact ha.given _ hm
      · exact h.deleting v hv i hi
  | @stops before u after hd =>
      refine ⟨by rw [Reporting.silence_tasks]; exact h.tasks, fun i hi => ?_, fun v hv i hi => ?_⟩
      · rw [Reporting.silence_created]
        rcases (Reporting.mem_silence_stopped _ _ i).1 hi with hi | hi
        · exact h.deleting u (by simp [hd]) i hi
        · exact h.stopped i hi
      · rw [Reporting.silence_created]
        refine h.deleting v ?_ i hi
        rw [hd]
        exact ((List.sublist_cons_self u after).append_left before).subset hv
  | around => exact ⟨h.tasks, h.stopped, h.deleting⟩

theorem Trace.ticketed (ht : Trace (start p epoch) ss c) : Ticketed c := by
  induction ht with
  | refl => exact ⟨List.nodup_nil, nofun, nofun⟩
  | tail ht hh ih => exact ih.happens ht.course.accounted hh

def Step.Takes (a : Step) (t : ReportTask) : Prop :=
  a.event = .removed t.key ∧ ∃ u, a.before.stored? t.key = some u ∧ u.ticker = some t.ticker

/-- The task has its entry, and nobody has stopped it or is about to. -/
structure Held (c : Overlap) (t : ReportTask) : Prop where
  running : t.ticker ∉ c.reporting.tickers.stopped
  stored : ∃ u, c.stored? t.key = some u ∧ u.ticker = some t.ticker
  apart : ∀ u ∈ c.deleting, u.ticker ≠ some t.ticker

theorem live_of_taskStep (h : Reporting.TaskStep k s t s') (hx : x ∈ s'.tasks)
    (hi : x.ticker = t.ticker) (hp : ¬ x.phase.Ending) :
    ¬ t.phase.Ending ∧ s'.tickers = s.tickers := by
  cases h with
  | aborted | stopped | gone | released => exact absurd hi (Reporting.mem_endTask.1 hx).2
  | silenced => exact absurd (.inr (phase_of_mem_setPhase hx hi)) hp
  | refused hp | began hp | lost hp | ticked hp | unbuilt hp | built hp | unsent hp | sent hp
  | arrived hp | broke hp => exact ⟨by simp [Phase.Ending, hp], rfl⟩

theorem Happens.live (hh : Happens c e c') (ha : Accounted es c) (hd : Ticketed c)
    (hx : x ∈ c'.reporting.tasks) (hy : y ∈ c.reporting.tasks) (hi : x.ticker = y.ticker)
    (hp : ¬ x.phase.Ending) : ¬ y.phase.Ending := by
  have same (hx : x ∈ c.reporting.tasks) : ¬ y.phase.Ending := hd.eq hx hy hi ▸ hp
  cases hh with
  | @task k t s ht hs =>
      have hs := Reporting.taskStep_of_step? hs
      by_cases hxt : x.ticker = t.ticker
      · rw [hd.eq hy ht (hi.symm.trans hxt)]
        exact (live_of_taskStep hs hx hxt hp).1
      · exact same (hs.mem_of_ne hx hxt)
  | breaks ht hs =>
      obtain ⟨-, rfl⟩ := Reporting.cut?_eq_some_iff.1 hs
      rcases Reporting.mem_setPhase.1 hx with ⟨hx, -⟩ | ⟨z, -, -, rfl⟩
      · exact same hx
      · exact absurd (.inl rfl) hp
  | admits k id q hm =>
      obtain ⟨-, accepted, refused, period, hs⟩ := admission_cases hm
      rw [hs] at hx
      rcases List.mem_append.1 hx with hx | hx
      · exact same hx
      · have hlt := ha.given _ (ha.tasks y hy)
        rw [← hi, List.mem_singleton.1 hx] at hlt
        exact absurd hlt (Nat.lt_irrefl _)
  | stops => exact same (by rwa [Reporting.silence_tasks] at hx)
  | removes hr =>
      obtain ⟨-, rfl⟩ := Reporting.take_eq_ok_iff.1 hr
      exact same hx
  | around => exact same hx

theorem Held.happens (h : Held c t) (ha : Accounted es c) (hh : Happens c e c')
    (hx : x ∈ c'.reporting.tasks) (hi : x.ticker = t.ticker) (hp : ¬ x.phase.Ending) :
    Held c' t ∨ Step.Takes ⟨c, e, c'⟩ t := by
  obtain ⟨u, hu, hut⟩ := h.stored
  cases hh with
  | @task k t' s ht hs =>
      have hs := Reporting.taskStep_of_step? hs
      refine .inl ⟨?_, ?_, h.apart⟩
      · by_cases hit : t.ticker = t'.ticker
        · show t.ticker ∉ s.tickers.stopped
          rw [(live_of_taskStep hs hx (hi.trans hit) hp).2]
          exact h.running
        · exact fun hm => h.running (hs.stopped_of_ne hit hm)
      · rcases entry_of_taskStep hs hu with hu | ⟨-, -, ht', he⟩
        · exact ⟨u, hu, hut⟩
        · exact absurd (hi.trans (Option.some.inj (hut.symm.trans ht'))) (ne_of_exited hs he hx)
  | breaks ht hs =>
      obtain ⟨-, rfl⟩ := Reporting.cut?_eq_some_iff.1 hs
      exact .inl ⟨h.running, h.stored, h.apart⟩
  | admits k id q hm =>
      obtain ⟨hf, accepted, refused, period, hs⟩ := admission_cases hm
      have hne : t.key ≠ .of q.request q.function := by
        intro hk
        rw [stored?, hk, hf] at hu
        cases hu
      rw [hs]
      exact .inl ⟨h.running, ⟨u, (Table.get?_insert ..).trans ((if_neg hne).trans hu), hut⟩, h.apart⟩
  | @removes key v _ hr =>
      obtain ⟨hg, rfl⟩ := Reporting.take_eq_ok_iff.1 hr
      by_cases hk : t.key = key
      · exact .inr ⟨by rw [hk], h.stored⟩
      · refine .inl ⟨h.running, ⟨u, (Table.get?_erase ..).trans ((if_neg hk).trans hu), hut⟩, ?_⟩
        rintro w hw hwt
        rcases List.mem_cons.1 hw with rfl | hw
        · obtain ⟨j, hj, hm⟩ := ha.entries key w hg
          obtain ⟨j', hj', hm'⟩ := ha.entries t.key u hu
          have hjj : j' = j :=
            Option.some.inj (hj'.symm.trans (hut.trans (hwt.symm.trans hj)))
          exact hk (congrArg Prod.fst (List.inj_on_of_nodup_map ha.once hm' hm hjj))
        · exact h.apart w hw hwt
  | @stops before v after hd =>
      have hsub : ∀ w ∈ before ++ after, w ∈ c.deleting := by
        rw [hd]
        exact fun w hw => ((List.sublist_cons_self v after).append_left before).subset hw
      refine .inl ⟨fun hm => ?_, ⟨u, ?_, hut⟩, fun w hw => h.apart w (hsub w hw)⟩
      · rcases (Reporting.mem_silence_stopped _ _ _).1 hm with hv | hm
        · exact h.apart v (by simp [hd]) hv
        · exact h.running hm
      · rw [stored?, Reporting.silence_subscriptions]
        exact hu
  | around => exact .inl ⟨h.running, h.stored, h.apart⟩

theorem Held.admitted (hd : Ticketed c) (hh : Happens c e c') (he : e = .admitted t.key t.ticker)
    (hn : t.ticker = c.reporting.tickers.next) : Held c' t := by
  obtain ⟨-, hst, -⟩ := hh.admitted he
  cases hh with
  | admits k id q hm =>
      obtain ⟨-, accepted, refused, period, hs⟩ := admission_cases hm
      rw [hs] at hst ⊢
      refine ⟨fun hm => ?_, hst, fun u hu hi => ?_⟩
      · have hlt := hd.stopped _ hm
        rw [hn] at hlt
        exact Nat.lt_irrefl _ hlt
      · have hlt := hd.deleting u hu _ hi
        rw [hn] at hlt
        exact Nat.lt_irrefl _ hlt
  | @task k t' s =>
      have hn := event_admission? t'
      rw [he] at hn
      cases hn
  | breaks | removes | stops | around => cases he

theorem Trace.held (ht : Trace (start p epoch) ss c) (hx : x ∈ c.reporting.tasks)
    (hp : ¬ x.phase.Ending) : (∃ a ∈ ss, a.Takes x) ∨ Held c x := by
  induction ht generalizing x with
  | refl => cases hx
  | @tail ss c e c' ht hh ih =>
      have ha := ht.course.accounted
      rcases hh.of_mem hx with ⟨y, hy, hxy⟩ | ⟨he, hn, -⟩
      · have hi : x.ticker = y.ticker := by rw [hxy]
        rcases ih hy (hh.live ha ht.ticketed hx hy hi hp) with ⟨a, hm, hta⟩ | hy'
        · rw [hxy]
          exact .inl ⟨a, List.mem_append_left _ hm, hta⟩
        · have hs : Held c x := by
            rw [hxy]
            exact ⟨hy'.running, hy'.stored, hy'.apart⟩
          rcases hs.happens ha hh hx rfl hp with hs | hta
          · exact .inr hs
          · exact .inl ⟨_, List.mem_append_right _ (List.mem_singleton_self _), hta⟩
      · exact .inr (.admitted ht.ticketed hh he hn)

theorem Trace.cut {before after : List Step} (ht : Trace c ss c')
    (hss : ss = before ++ a :: after) : Trace c before a.before := by
  induction ht generalizing after with
  | refl => simp at hss
  | @tail ss d e d' ht hh ih =>
      rcases List.eq_nil_or_concat after with rfl | ⟨after, b, rfl⟩
      · obtain ⟨rfl, he⟩ := List.append_inj' hss rfl
        cases he
        exact ht
      · rw [List.concat_eq_append, ← List.cons_append, ← List.append_assoc] at hss
        exact ih (List.append_inj' hss rfl).1

/-- Why a task ends with a step, after some other steps. -/
inductive EndCause (ss : List Step) (a : Step) (t : ReportTask) : Prop
  | deleted (hd : ∃ b ∈ ss, b.Takes t)
  | sessionEnded {r : Rhythm} (hp : t.phase = .waiting r)
      (hc : a.before.reporting.isClosed t.session = true)
  | sendRefused {r : Rhythm} {x : Indication} (hp : t.phase = .sending r x)
      (hr : (a.before.reporting.refusal? t.session).isSome = true)
  | sendFailed {r : Rhythm} {x : Indication} {done : Nat} (hp : t.phase = .inFlight r x done)
      (ha : a.after.reporting = a.before.reporting.setPhase t.ticker .failing)

structure Step.Ends (a : Step) (t : ReportTask) : Prop where
  task : t ∈ a.before.reporting.tasks
  live : ¬ t.phase.Ending
  gone : ∀ x ∈ a.after.reporting.tasks, x.ticker = t.ticker → x.phase.Ending

theorem Step.Ends.not_mem (h : a.Ends t) : t ∉ a.after.reporting.tasks := fun hm =>
  h.live (h.gone t hm rfl)

theorem cause_of_taskStep (hk : k.codec = .standard)
    (h : Reporting.TaskStep k c.reporting t s) (hs : t.Sturdy)
    (hh : (∃ b ∈ ss, b.Takes t) ∨ Held c t) (hu : ∀ u, c.stored? t.key = some u → u.accepted ≠ [])
    (he : Step.Ends ⟨c, e, { c with reporting := s }⟩ t) :
    EndCause ss ⟨c, e, { c with reporting := s }⟩ t := by
  have next {p : Phase} (hm : { t with phase := p } ∈ s.tasks) : p.Ending := he.gone _ hm rfl
  have here {p : Phase} : { t with phase := p } ∈ (c.reporting.setPhase t.ticker p).tasks :=
    Reporting.mem_setPhase.2 (.inr ⟨t, he.task, rfl, rfl⟩)
  cases h with
  | refused hp hr =>
      obtain ⟨header, hb, -⟩ := header_built hk c.reporting.wallClock
      cases hr.symm.trans hb
  | aborted hp h0 => exact absurd h0 hs.period
  | began => simpa [Phase.Ending] using next here
  | stopped hp hst =>
      refine .deleted (hh.resolve_right fun h => h.running ?_)
      simpa [Tickers.isStopped] using hst
  | lost hp _ hc => exact .sessionEnded hp hc
  | ticked => simpa [Phase.Ending] using next here
  | gone hp hn =>
      refine .deleted (hh.resolve_right fun h => ?_)
      obtain ⟨u, hg, -⟩ := h.stored
      obtain ⟨x, _, hb, -⟩ := report_built hk c.reporting hs.function
        (hs.header _ (congrArg Phase.rhythm? hp)) (hu u hg)
      rw [show c.reporting.subscriptions.entries.get? t.key = some u from hg, Option.bind_some,
        hb] at hn
      cases hn
  | unbuilt hp hn =>
      obtain ⟨u, hg, hr⟩ := Option.bind_eq_some_iff.1 hn
      obtain ⟨x, _, hb, -⟩ := report_built hk c.reporting hs.function
        (hs.header _ (congrArg Phase.rhythm? hp)) (hu u hg)
      cases hb.symm.trans hr
  | built => simpa [Phase.Ending] using next here
  | unsent hp hr => exact .sendRefused hp hr
  | broke hp => exact .sendFailed hp rfl
  | sent => simpa [Phase.Ending] using next here
  | arrived =>
      have hm := next (Reporting.mem_setPhase.2 (.inr ⟨t, he.task, rfl, rfl⟩))
      simp [Phase.Ending] at hm
  | silenced hp => exact absurd (.inl hp) he.live
  | released hp => exact absurd (.inr hp) he.live

theorem Step.Standard.cause (ha : a.Standard) (hs : ∀ t ∈ a.before.reporting.tasks, t.Sturdy)
    (hd : Ticketed a.before) (hh : (∃ b ∈ ss, b.Takes t) ∨ Held a.before t)
    (hu : ∀ u, a.before.stored? t.key = some u → u.accepted ≠ []) (he : a.Ends t) :
    EndCause ss a t := by
  cases ha with
  | @task c t' s k hk ht hst =>
      have hst := Reporting.taskStep_of_step? hst
      by_cases hi : t.ticker = t'.ticker
      · obtain rfl := hd.eq he.task ht hi
        exact cause_of_taskStep hk hst (hs t ht) hh hu he
      · exact absurd (hst.mem he.task hi) he.not_mem
  | @breaks c t' s ht hcut =>
      obtain ⟨⟨r, x, done, hp⟩, rfl⟩ := Reporting.cut?_eq_some_iff.1 hcut
      by_cases hi : t.ticker = t'.ticker
      · obtain rfl := hd.eq he.task ht hi
        exact .sendFailed hp rfl
      · exact absurd (Reporting.mem_setPhase.2 (.inl ⟨he.task, hi⟩)) he.not_mem
  | admits k hk id q hm =>
      obtain ⟨-, accepted, refused, period, hst⟩ := admission_cases hm
      refine absurd ?_ he.not_mem
      rw [hst]
      exact List.mem_append_left _ he.task
  | apart ht => exact absurd (ht ▸ he.task) he.not_mem

/-- No report is refused on its way to a frame and no task begins without a period, so the end of a
task has another cause. -/
theorem task_ends_for_cause (ht : Trace (start p epoch) ss c) (hs : ∀ a ∈ ss, a.Standard) :
    (∀ k : Service, k.codec = .standard →
      (∀ time, ∃ header, k.codec.header (k.header time) = .ok header) ∧
      ∀ m, ∃ message, k.codec.measurement m = .ok message) ∧
    (∀ t ∈ c.reporting.tasks, t.period ≠ 0 ∧
      ∀ (k : Service) (r : Rhythm) (u : Subscription) (ues : Population),
        k.codec = .standard → t.phase = .looking r → c.stored? t.key = some u →
        ∃ x frame, Reporting.reportFor k { c.reporting with population := ues } t r u =
          some (.ok x) ∧ Frame.ofPdu (.indication x) = .ok frame) ∧
    ∀ before a after t, ss = before ++ a :: after → a.Ends t → EndCause before a t := by
  refine ⟨fun k hk => ⟨fun time => ?_, fun m => ?_⟩, fun t hm => ⟨?_, ?_⟩, ?_⟩
  · obtain ⟨header, hb, -⟩ := header_built hk time
    exact ⟨header, hb⟩
  · obtain ⟨message, hb, -⟩ := measurement_built hk m
    exact ⟨message, hb⟩
  · exact (ht.sturdy hs t hm).period
  · intro k r u ues hk hp hu
    have hst := ht.sturdy hs t hm
    exact report_built hk _ hst.function (hst.header r (congrArg Phase.rhythm? hp))
      (ht.accepts hu)
  · rintro before a after t rfl he
    have hb := ht.cut rfl
    have hs := List.forall_mem_append.1 hs
    exact (hs.2 a List.mem_cons_self).cause (hb.sturdy hs.1) hb.ticketed
      (hb.held he.task he.live) (fun _ => hb.accepts) he

theorem refused_send_ends_task :
    ∃ k before c a c' t, k.codec = .standard ∧ Trace (start .empty 0) before c ∧
      (∃ y ∈ c.reporting.tasks, ∃ r u x frame, y.phase = .looking r ∧ c.stored? y.key = some u ∧
        c.reporting.reportFor k y r u = some (.ok x) ∧ Frame.ofPdu (.indication x) = .ok frame) ∧
      ∃ later, Trace c (later ++ [a]) c' ∧ (∀ b ∈ before ++ (later ++ [a]), b.Standard) ∧
        a.Ends t ∧ EndCause (before ++ later) a t ∧ ∃ r x, t.phase = .sending r x := by
  let q : SubscriptionRequest := ⟨⟨1, 2⟩, functionId, [100, 0, 0, 0], [⟨⟨5⟩, .report, none⟩]⟩
  let k : Service := ⟨⟨⟨1⟩, ⟨⟨1, 3, 8⟩, ⟨4, 2, 6⟩, 3⟩⟩, .standard, []⟩
  let s₀ : Reporting := { Reporting.start .empty 0 with links := [.fresh false 5] }
  let s₁ := (k.subscription ⟨0⟩ q s₀).2
  let s₂ := s₁.run k 1
  let s₃ := (s₂.atTime 100).run k 1
  let s₄ := s₃.run k 1
  let s₅ : Reporting := { s₄ with links := [(Link.fresh false 5).close] }
  have hstart : Happens (start .empty 0) .other ⟨s₀, []⟩ := .around 0 [.fresh false 5] .empty
  have hadmit : Happens ⟨s₀, []⟩ (.admitted (.of q.request functionId) ⟨0⟩) ⟨s₁, []⟩ :=
    .admits k ⟨0⟩ q rfl
  obtain ⟨ss₂, h₂, ha₂⟩ : ∃ ss, Trace ⟨s₁, []⟩ ss ⟨s₂, []⟩ ∧ _ := run_standard rfl 1 ⟨s₁, []⟩
  have hwait : Happens ⟨s₂, []⟩ .other ⟨s₂.atTime 100, []⟩ := .around 100 s₂.links s₂.population
  obtain ⟨ss₃, h₃, ha₃⟩ : ∃ ss, Trace ⟨s₂.atTime 100, []⟩ ss ⟨s₃, []⟩ ∧ _ :=
    run_standard rfl 1 ⟨s₂.atTime 100, []⟩
  obtain ⟨ss₄, h₄, ha₄⟩ : ∃ ss, Trace ⟨s₃, []⟩ ss ⟨s₄, []⟩ ∧ _ := run_standard rfl 1 ⟨s₃, []⟩
  have hclose : Happens ⟨s₄, []⟩ .other ⟨s₅, []⟩ :=
    .around s₄.now [(Link.fresh false 5).close] s₄.population
  obtain ⟨y, hy, hl, ho, hu⟩ : ∃ y ∈ s₃.tasks, left .begun y.phase = 1 ∧ event y = .other ∧
      (s₃.subscriptions.entries.get? y.key).isSome = true := by
    decide
  obtain ⟨t, ht, hsend, hr⟩ : ∃ t ∈ s₅.tasks, (event t).isSend .begun t.ticker = true ∧
      (s₅.refusal? t.session).isSome = true := by
    decide
  have hadmits : Step.Standard ⟨⟨s₀, []⟩, .admitted (.of q.request functionId) ⟨0⟩, ⟨s₁, []⟩⟩ :=
    .admits (c := ⟨s₀, []⟩) k rfl ⟨0⟩ q rfl
  have hcloses : Step.Standard ⟨⟨s₄, []⟩, .other, ⟨s₅, []⟩⟩ := .apart rfl
  clear_value s₅ s₄ s₃ s₂ s₁
  have hb := ((((Trace.refl.tail hstart).tail hadmit).trans h₂).tail hwait).trans h₃
  have hbs : ∀ b ∈ (([] ++ [⟨start .empty 0, .other, ⟨s₀, []⟩⟩] ++
      [⟨⟨s₀, []⟩, .admitted (.of q.request functionId) ⟨0⟩, ⟨s₁, []⟩⟩] ++ ss₂) ++
      [⟨⟨s₂, []⟩, .other, ⟨s₂.atTime 100, []⟩⟩]) ++ ss₃, Step.Standard b := by
    simp only [List.forall_mem_append, List.forall_mem_singleton, List.nil_append]
    exact ⟨⟨⟨⟨.apart rfl, hadmits⟩, ha₂⟩, .apart rfl⟩, ha₃⟩
  obtain ⟨u, hu⟩ := Option.isSome_iff_exists.1 hu
  cases hq : y.phase with
  | looking r =>
      obtain ⟨x, frame, hx, hf⟩ :=
        ((task_ends_for_cause hb hbs).2.1 y hy).2 k r u s₃.population rfl hq hu
      cases hp : t.phase with
      | sending r' x' =>
          have hs : s₅.step? k t = some (s₅.setPhase t.ticker .failing) := by
            simp only [Reporting.step?, hp, hr, if_true]
          have hl := (h₄.tail hclose).tail (.task (c := ⟨s₅, []⟩) k ht hs)
          have he : Step.Ends ⟨⟨s₅, []⟩, event t, ⟨s₅.setPhase t.ticker .failing, []⟩⟩ t :=
            ⟨ht, by simp [Phase.Ending, hp], fun x hx hi => .inl (phase_of_mem_setPhase hx hi)⟩
          have hls := List.forall_mem_append.2 ⟨hbs, List.forall_mem_append.2
            ⟨List.forall_mem_append.2 ⟨ha₄, List.forall_mem_singleton.2 hcloses⟩,
              List.forall_mem_singleton.2 (.task (c := ⟨s₅, []⟩) k rfl ht hs)⟩⟩
          have hc := (task_ends_for_cause (hb.trans hl) hls).2.2 _ _ [] t
            (List.append_assoc ..).symm he
          exact ⟨k, _, _, _, _, t, rfl, hb, ⟨y, hy, r, u, x, frame, hq, hu, hx, hf⟩, _, hl, hls, he,
            hc, r', x', hp⟩
      | _ => simp [event, hp, Event.isSend] at hsend
  | sending => simp [event, hq] at ho
  | _ => simp [hq, left] at hl

end Overlap

end E2Node.Kpm
