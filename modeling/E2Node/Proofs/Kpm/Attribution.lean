import E2Node.Proofs.Kpm.Removal
import E2Node.Proofs.Kpm.Sequence

namespace E2Node.Kpm

namespace Overlap

structure Step where
  before : Overlap
  event : Event
  after : Overlap

inductive Trace (c : Overlap) : List Step → Overlap → Prop
  | refl : Trace c [] c
  | tail {ss d e d'} (h : Trace c ss d) (hh : Happens d e d') : Trace c (ss ++ [⟨d, e, d'⟩]) d'

def Step.stores? (s : Step) : Option Subscription :=
  match s.event with
  | .admitted key _ => s.after.stored? key
  | _ => none

def admitted (ss : List Step) : List Subscription := ss.filterMap Step.stores?

/-- Where the key is admitted, no delete request has yet to stop a task of it, and no task of it has
ticked and not looked yet. -/
def Step.Orderly (key : SubscriptionKey) (s : Step) : Prop :=
  ∀ i, s.event = .admitted key i → (∀ u ∈ s.before.deleting, u.key ≠ key) ∧
    ∀ t ∈ s.before.reporting.tasks, t.key = key → ∀ r, t.phase ≠ .looking r

structure Step.Builds (s : Step) (t : ReportTask) (u : Subscription) (x : Indication) : Prop where
  task : t ∈ s.before.reporting.tasks
  looking : ∃ r, t.phase = .looking r
  found : s.before.stored? t.key = some u
  action : u.accepted.head? = some x.action
  request : x.request = t.key.request
  function : x.function = t.key.function

/-- What a task finds under its key: its own entry, or none because that is gone, or one that it
does not look at because it is stopped. -/
inductive Place (c : Overlap) (t : ReportTask) : Prop
  | own (u : Subscription) (hu : c.stored? t.key = some u) (hi : u.ticker = some t.ticker)
  | leaving (hn : c.stored? t.key = none) (hl : t.ticker ∈ c.reporting.tickers.stopped ∨
      ∃ u ∈ c.deleting, u.key = t.key ∧ u.ticker = some t.ticker)
  | stopped (hs : t.ticker ∈ c.reporting.tickers.stopped) (hp : ∀ r, t.phase ≠ .looking r)

variable {c c' d : Overlap} {e : Event} {es : List Event} {k : Service} {s s' : Reporting}
  {t x : ReportTask} {key : SubscriptionKey} {i : TickerId} {u : Subscription} {ss : List Step}
  {a : Step} {p : Population} {epoch : Int} {y : Indication}

theorem Trace.course (ht : Trace c ss d) : Course c (ss.map Step.event) d := by
  induction ht with
  | refl => exact .refl
  | tail _ hh ih =>
      rw [List.map_append]
      exact ih.tail hh

theorem Trace.trans {ss' : List Step} (ht : Trace c ss c') (ht' : Trace c' ss' d) :
    Trace c (ss ++ ss') d := by
  induction ht' with
  | refl => rwa [List.append_nil]
  | tail _ hh ih =>
      rw [← List.append_assoc]
      exact ih.tail hh

theorem run_trace (k : Service) (n : Nat) (c : Overlap) :
    ∃ ss, Trace c ss { c with reporting := c.reporting.run k n } ∧
      ∀ a ∈ ss, a.event.admission? = none := by
  refine Reporting.run_keeps (P := fun s => ∃ ss, Trace c ss { c with reporting := s } ∧
    ∀ a ∈ ss, a.event.admission? = none) (fun s t s' ht hs h => ?_) n ⟨[], .refl, nofun⟩
  obtain ⟨ss, h, he⟩ := h
  exact ⟨_, h.tail (.task k ht hs),
    List.forall_mem_append.2 ⟨he, List.forall_mem_singleton.2 (event_admission? t)⟩⟩

theorem Trace.split (ht : Trace c ss d) (ha : a ∈ ss) : ∃ before after, ss = before ++ a :: after ∧
    Trace c before a.before ∧ Happens a.before a.event a.after := by
  induction ht with
  | refl => cases ha
  | @tail ss d e d' ht hh ih =>
      rcases List.mem_append.1 ha with ha | ha
      · obtain ⟨before, after, rfl, hb, hh'⟩ := ih ha
        exact ⟨before, after ++ [⟨d, e, d'⟩], by rw [List.append_assoc]; rfl, hb, hh'⟩
      · cases List.mem_singleton.1 ha
        exact ⟨ss, [], rfl, ht, hh⟩

theorem Happens.stores? (hh : Happens c e c') :
    (Step.mk c e c').stores?.map (fun u => (u.key, u.ticker)) =
      e.admission?.map fun a => (a.1, some a.2) := by
  cases hh with
  | @task k t s ht hs =>
      rw [event_admission?]
      dsimp only [Step.stores?, event]
      cases t.phase <;> rfl
  | admits k id r hm =>
      obtain ⟨-, accepted, refused, period, hs⟩ := admission_cases hm
      simp only [Step.stores?, stored?, hs, Table.get?_insert, if_true]
      rfl
  | breaks | removes | stops | around => rfl

theorem Trace.admitted_eq (ht : Trace c ss d) :
    (admitted ss).map (fun u => (u.key, u.ticker)) =
      (admissions (ss.map Step.event)).map fun a => (a.1, some a.2) := by
  rw [admitted, admissions, List.map_filterMap, List.map_filterMap, List.filterMap_map]
  refine List.filterMap_congr fun a ha => ?_
  obtain ⟨_, _, -, -, hh⟩ := ht.split ha
  exact hh.stores?

theorem Trace.nodup (ht : Trace (start p epoch) ss c) :
    ((admitted ss).map Subscription.ticker).Nodup := by
  have hn := ht.course.accounted.once.map (Option.some_injective TickerId)
  have he := congrArg (List.map Prod.snd) ht.admitted_eq
  simp only [List.map_map] at he hn
  have hs : (admitted ss).map Subscription.ticker =
      (admissions (ss.map Step.event)).map (some ∘ Prod.snd) := he
  rwa [hs]

theorem Trace.mem_admitted (ht : Trace c ss d) (ha : (key, i) ∈ admissions (ss.map Step.event)) :
    ∃ u ∈ admitted ss, u.key = key ∧ u.ticker = some i := by
  have hm : (key, some i) ∈ (admitted ss).map fun u => (u.key, u.ticker) := by
    rw [ht.admitted_eq]
    exact List.mem_map.2 ⟨(key, i), ha, rfl⟩
  obtain ⟨u, hu, he⟩ := List.mem_map.1 hm
  exact ⟨u, hu, congrArg Prod.fst he, congrArg Prod.snd he⟩

theorem Happens.of_stored (hh : Happens c e c') (hu : c'.stored? key = some u) :
    c.stored? key = some u ∨ e = .admitted key c.reporting.tickers.next ∧
      u.ticker = some c.reporting.tickers.next ∧ u.key = key := by
  cases hh with
  | task k ht hs => exact .inl ((Reporting.taskStep_of_step? hs).get?_of_some hu)
  | admits k id r hm =>
      obtain ⟨-, accepted, refused, period, hs⟩ := admission_cases hm
      rw [stored?, hs, Table.get?_insert] at hu
      split at hu
      · rename_i hk
        cases hu
        exact .inr ⟨by rw [hk], rfl, hk.symm⟩
      · exact .inl hu
  | removes hr =>
      obtain ⟨-, rfl⟩ := Reporting.take_eq_ok_iff.1 hr
      rw [stored?, Table.get?_erase] at hu
      split at hu
      · cases hu
      · exact .inl hu
  | stops => exact .inl (by rwa [stored?, Reporting.silence_subscriptions] at hu)
  | breaks ht hs =>
      obtain ⟨-, rfl⟩ := Reporting.cut?_eq_some_iff.1 hs
      exact .inl hu
  | around => exact .inl hu

theorem Happens.of_mem (hh : Happens c e c') (hx : x ∈ c'.reporting.tasks) :
    (∃ y ∈ c.reporting.tasks, x = { y with phase := x.phase }) ∨
      e = .admitted x.key x.ticker ∧ x.ticker = c.reporting.tickers.next ∧
        x.phase = .starting := by
  cases hh with
  | task k ht hs =>
      obtain ⟨y, hy, hxy, -⟩ := (Reporting.taskStep_of_step? hs).origin hx
      exact .inl ⟨y, hy, hxy⟩
  | breaks ht hs =>
      obtain ⟨-, rfl⟩ := Reporting.cut?_eq_some_iff.1 hs
      rcases Reporting.mem_setPhase.1 hx with ⟨hx, -⟩ | ⟨y, hy, -, rfl⟩
      · exact .inl ⟨x, hx, rfl⟩
      · exact .inl ⟨y, hy, rfl⟩
  | admits k id r hm =>
      obtain ⟨-, accepted, refused, period, hs⟩ := admission_cases hm
      rw [hs] at hx
      rcases List.mem_append.1 hx with hx | hx
      · exact .inl ⟨x, hx, rfl⟩
      · rw [List.mem_singleton.1 hx]
        exact .inr ⟨rfl, rfl, rfl⟩
  | stops => exact .inl ⟨x, by rwa [Reporting.silence_tasks] at hx, rfl⟩
  | removes hr =>
      obtain ⟨-, rfl⟩ := Reporting.take_eq_ok_iff.1 hr
      exact .inl ⟨x, hx, rfl⟩
  | around => exact .inl ⟨x, hx, rfl⟩

theorem Trace.key_of_stored (ht : Trace (start p epoch) ss c) (hu : c.stored? key = some u) :
    u.key = key := by
  induction ht with
  | refl => cases hu
  | tail _ hh ih =>
      rcases hh.of_stored hu with hu | ⟨-, -, hk⟩
      · exact ih hu
      · exact hk

theorem Trace.mem_of_stored (ht : Trace (start p epoch) ss c) (hu : c.stored? key = some u) :
    u ∈ admitted ss := by
  induction ht with
  | refl => cases hu
  | tail _ hh ih =>
      rw [admitted, List.filterMap_append]
      rcases hh.of_stored hu with hu | ⟨he, -, -⟩
      · exact List.mem_append_left _ (ih hu)
      · refine List.mem_append_right _ (List.mem_filterMap.2 ⟨_, List.mem_singleton_self _, ?_⟩)
        rw [Step.stores?, he]
        exact hu

theorem Trace.later (ht : Trace (start p epoch) ss c) (hx : x ∈ c.reporting.tasks)
    (hu : c.stored? x.key = some u) : ∃ j, u.ticker = some j ∧ x.ticker.val ≤ j.val := by
  induction ht generalizing x with
  | refl => cases hx
  | tail ht hh ih =>
      have ha := ht.course.accounted
      rcases hh.of_mem hx with ⟨y, hy, hxy⟩ | ⟨he, -, -⟩
      · have hk : x.key = y.key := by rw [hxy]
        have hi : x.ticker = y.ticker := by rw [hxy]
        rw [hk] at hu
        rw [hi]
        rcases hh.of_stored hu with hu | ⟨-, hj, -⟩
        · exact ih hy hu
        · exact ⟨_, hj, (ha.given _ (ha.tasks y hy)).le⟩
      · obtain ⟨-, ⟨v, hv, hj⟩, -⟩ := hh.admitted he
        cases hu.symm.trans hv
        exact ⟨_, hj, Nat.le_refl _⟩

theorem looking_of_taskStep {r : Rhythm} (h : Reporting.TaskStep k s t s') (hx : x ∈ s'.tasks)
    (hi : x.ticker = t.ticker) (hp : x.phase = .looking r) : t.ticker ∉ s.tickers.stopped := by
  cases h with
  | ticked _ hs => simpa [Tickers.isStopped] using hs
  | refused | began | lost | unbuilt | built | unsent | sent | arrived | broke | silenced =>
      cases hp.symm.trans (phase_of_mem_setPhase hx hi)
  | aborted | stopped | gone | released => exact absurd hi (Reporting.mem_endTask.1 hx).2

theorem sending_of_taskStep {r : Rhythm} (h : Reporting.TaskStep k s t s') (hx : x ∈ s'.tasks)
    (hi : x.ticker = t.ticker) (hp : x.phase = .sending r y) :
    t.phase = .looking r ∧
      (s.subscriptions.entries.get? t.key).bind (s.reportFor k t r) = some (.ok y) := by
  cases h with
  | built hl he =>
      cases hp.symm.trans (phase_of_mem_setPhase hx hi)
      exact ⟨hl, he⟩
  | refused | began | lost | ticked | unbuilt | unsent | sent | arrived | broke | silenced =>
      cases hp.symm.trans (phase_of_mem_setPhase hx hi)
  | aborted | stopped | gone | released => exact absurd hi (Reporting.mem_endTask.1 hx).2

theorem Trace.builds {r : Rhythm} (ht : Trace (start p epoch) ss c) (hx : x ∈ c.reporting.tasks)
    (hp : x.phase = .sending r y) : ∃ a ∈ ss, ∃ t u, t.ticker = x.ticker ∧ a.Builds t u y := by
  induction ht generalizing x with
  | refl => cases hx
  | @tail ss c e c' ht hh ih =>
      have old (x' : ReportTask) (hx' : x' ∈ c.reporting.tasks) (hp' : x'.phase = .sending r y)
          (hi : x'.ticker = x.ticker) :
          ∃ a ∈ ss ++ [⟨c, e, c'⟩], ∃ t u, t.ticker = x.ticker ∧ a.Builds t u y := by
        obtain ⟨a, ha, t, u, ht, hb⟩ := ih hx' hp'
        exact ⟨a, List.mem_append_left _ ha, t, u, ht.trans hi, hb⟩
      cases hh with
      | @task k t s ht hs =>
          have hs := Reporting.taskStep_of_step? hs
          by_cases hi : x.ticker = t.ticker
          · obtain ⟨hl, he⟩ := sending_of_taskStep hs hx hi hp
            obtain ⟨u, hu, hr⟩ := Option.bind_eq_some_iff.1 he
            obtain ⟨action, message, ha, -, rfl⟩ := Reporting.reportFor_eq_ok hr
            exact ⟨_, List.mem_append_right _ (List.mem_singleton_self _), t, u, hi.symm,
              ht, ⟨r, hl⟩, hu, ha, rfl, rfl⟩
          · exact old x (hs.mem_of_ne hx hi) hp rfl
      | breaks ht hs =>
          obtain ⟨-, rfl⟩ := Reporting.cut?_eq_some_iff.1 hs
          rcases Reporting.mem_setPhase.1 hx with ⟨hx, -⟩ | ⟨y', hy, hi, rfl⟩
          · exact old x hx hp rfl
          · cases hp
      | admits k id r hm =>
          obtain ⟨-, accepted, refused, period, hs⟩ := admission_cases hm
          rw [hs] at hx
          rcases List.mem_append.1 hx with hx | hx
          · exact old x hx hp rfl
          · rw [List.mem_singleton.1 hx] at hp
            cases hp
      | stops => exact old x (by rwa [Reporting.silence_tasks] at hx) hp rfl
      | removes hr =>
          obtain ⟨-, rfl⟩ := Reporting.take_eq_ok_iff.1 hr
          exact old x hx hp rfl
      | around => exact old x hx hp rfl

theorem ne_of_exited (h : Reporting.TaskStep k s t s') (he : event t = .exited t.ticker)
    (hx : x ∈ s'.tasks) : x.ticker ≠ t.ticker := by
  cases h with
  | released => exact (Reporting.mem_endTask.1 hx).2
  | refused hp | aborted hp | began hp | stopped hp | lost hp | ticked hp | gone hp | unbuilt hp
  | built hp | unsent hp | sent hp | arrived hp | broke hp | silenced hp => simp [event, hp] at he

theorem Place.taskStep {y : ReportTask} (h : Place c y) (hs : Reporting.TaskStep k c.reporting t s)
    (hx : x ∈ s.tasks) (hxy : x = { y with phase := x.phase }) (hne : x.ticker ≠ t.ticker → x = y) :
    Place { c with reporting := s } x := by
  have hk : x.key = y.key := by rw [hxy]
  have hi : x.ticker = y.ticker := by rw [hxy]
  cases h with
  | own u hu hj =>
      rcases entry_of_taskStep hs hu with hu | ⟨-, -, ht, he⟩
      · exact .own u (by rw [hk]; exact hu) (by rw [hi]; exact hj)
      · refine absurd ?_ (ne_of_exited hs he hx)
        rw [hi]
        exact Option.some.inj (hj.symm.trans ht)
  | leaving hn hl =>
      refine .leaving ?_ ?_
      · rw [hk]
        refine Option.eq_none_iff_forall_ne_some.2 fun u hu => ?_
        exact absurd (hn.symm.trans (hs.get?_of_some hu)) nofun
      · rw [hk, hi]
        exact hl.imp_left hs.stopped_mono
  | stopped hst hp =>
      refine .stopped (by rw [hi]; exact hs.stopped_mono hst) fun r hr => ?_
      by_cases ht : x.ticker = t.ticker
      · refine looking_of_taskStep hs hx ht hr ?_
        rw [← ht, hi]
        exact hst
      · rw [hne ht] at hr
        exact hp r hr

theorem Place.mono (h : Place c x) (hu : c'.stored? x.key = c.stored? x.key)
    (hi : ∀ i ∈ c.reporting.tickers.stopped, i ∈ c'.reporting.tickers.stopped)
    (hd : ∀ u ∈ c.deleting, u ∈ c'.deleting ∨
      ∀ i, u.ticker = some i → i ∈ c'.reporting.tickers.stopped) : Place c' x := by
  cases h with
  | own u h hj => exact .own u (hu.trans h) hj
  | leaving hn hl =>
      refine .leaving (hu.trans hn) ?_
      rcases hl with hl | ⟨u, hm, hk, hj⟩
      · exact .inl (hi _ hl)
      · rcases hd u hm with hm | hs
        · exact .inr ⟨u, hm, hk, hj⟩
        · exact .inl (hs _ hj)
  | stopped hs hp => exact .stopped (hi _ hs) hp

theorem Place.admits {session : SessionId} {r : SubscriptionRequest} {m : SubscriptionResponse}
    (hp : ∀ x ∈ c.reporting.tasks, x.key = key → Place c x)
    (hm : (k.subscription session r c.reporting).1 = .ok (.success m))
    (ho : key = .of r.request r.function → (∀ u ∈ c.deleting, u.key ≠ key) ∧
      ∀ t ∈ c.reporting.tasks, t.key = key → ∀ r, t.phase ≠ .looking r)
    (hx : x ∈ (k.subscription session r c.reporting).2.tasks) (hk : x.key = key) :
    Place { c with reporting := (k.subscription session r c.reporting).2 } x := by
  obtain ⟨hf, accepted, refused, period, hs⟩ := admission_cases hm
  rw [hs] at hx ⊢
  have hget (key' : SubscriptionKey) := Table.get?_insert c.reporting.subscriptions.entries
    (.of r.request r.function) key'
  rcases List.mem_append.1 hx with hx | hx
  · by_cases hr : x.key = .of r.request r.function
    · obtain ⟨hd, hl⟩ := ho (hk.symm.trans hr)
      have hst : x.ticker ∈ c.reporting.tickers.stopped := by
        cases hp x hx hk with
        | own u hu => simp [stored?, hr, hf] at hu
        | leaving _ hs =>
            refine hs.resolve_right ?_
            rintro ⟨u, hm, hu, -⟩
            exact hd u hm (hu.trans hk)
        | stopped hs => exact hs
      exact .stopped hst (hl x hx hk)
    · exact (hp x hx hk).mono ((hget _ _).trans (if_neg hr)) (fun _ => id) fun _ => .inl
  · rw [List.mem_singleton.1 hx]
    exact .own _ ((hget _ _).trans (if_pos rfl)) rfl

theorem Place.remove {key' : SubscriptionKey} (hp : Place c x)
    (hf : c.stored? key' = some u) (hu : u.key = key') : Place
      { c with
        reporting := { c.reporting with
          subscriptions := ⟨c.reporting.subscriptions.entries.erase key'⟩ }
        deleting := u :: c.deleting } x := by
  have hget := Table.get?_erase c.reporting.subscriptions.entries key' x.key
  by_cases hr : x.key = key'
  · cases hp with
    | own v hv hi =>
        rw [hr] at hv
        cases hf.symm.trans hv
        exact .leaving (hget.trans (if_pos hr)) (.inr ⟨u, List.mem_cons_self, hu.trans hr.symm, hi⟩)
    | leaving hn =>
        rw [hr] at hn
        cases hf.symm.trans hn
    | stopped hs hl => exact .stopped hs hl
  · exact hp.mono (hget.trans (if_neg hr)) (fun _ => id) fun _ hm => .inl (List.mem_cons_of_mem _ hm)

theorem Place.happens (hp : ∀ x ∈ c.reporting.tasks, x.key = key → Place c x)
    (hu : ∀ key u, c.stored? key = some u → u.key = key) (hh : Happens c e c')
    (ho : Step.Orderly key ⟨c, e, c'⟩) (hx : x ∈ c'.reporting.tasks) (hk : x.key = key) :
    Place c' x := by
  cases hh with
  | task k ht hs =>
      have hs := Reporting.taskStep_of_step? hs
      obtain ⟨y, hy, hxy, hne⟩ := hs.origin hx
      have hk' : x.key = y.key := by rw [hxy]
      exact (hp y hy (hk'.symm.trans hk)).taskStep hs hx hxy hne
  | breaks ht hs =>
      obtain ⟨-, rfl⟩ := Reporting.cut?_eq_some_iff.1 hs
      rcases Reporting.mem_setPhase.1 hx with ⟨hx, -⟩ | ⟨y, hy, -, rfl⟩
      · exact (hp x hx hk).mono rfl (fun _ => id) fun _ => .inl
      · cases hp y hy hk with
        | own u hu hi => exact .own u hu hi
        | leaving hn hl => exact .leaving hn hl
        | stopped hs _ => exact .stopped hs nofun
  | admits k session r hm => exact .admits hp hm (fun hr => ho _ (by rw [hr])) hx hk
  | removes hr =>
      obtain ⟨hf, rfl⟩ := Reporting.take_eq_ok_iff.1 hr
      exact (hp x hx hk).remove hf (hu _ _ hf)
  | @stops before u after hd =>
      rw [Reporting.silence_tasks] at hx
      refine (hp x hx hk).mono (by rw [stored?, Reporting.silence_subscriptions]; rfl)
        (fun i hi => (Reporting.mem_silence_stopped _ _ i).2 (.inr hi)) fun v hv => ?_
      rw [hd, List.mem_append, List.mem_cons] at hv
      rcases hv with hv | rfl | hv
      · exact .inl (List.mem_append_left _ hv)
      · exact .inr fun i hi => (Reporting.mem_silence_stopped _ _ i).2 (.inl hi)
      · exact .inl (List.mem_append_right _ hv)
  | around => exact (hp x hx hk).mono rfl (fun _ => id) fun _ => .inl

theorem Trace.place (ht : Trace (start p epoch) ss c) (ho : ∀ a ∈ ss, a.Orderly key)
    (hx : x ∈ c.reporting.tasks) (hk : x.key = key) : Place c x := by
  induction ht generalizing x with
  | refl => cases hx
  | tail ht hh ih =>
      refine Place.happens (fun x hx hk => ih (fun a ha => ho a (List.mem_append_left _ ha)) hx hk)
        (fun _ _ => ht.key_of_stored) hh (ho _ ?_) hx hk
      exact List.mem_append_right _ (List.mem_singleton_self _)

theorem event_eq_handed (he : event t = .handed i y) :
    t.ticker = i ∧ ∃ r, t.phase = .sending r y := by
  rw [event] at he
  cases hp : t.phase <;> simp [hp] at he
  exact ⟨he.1, _, by rw [he.2]⟩

theorem sending_of_handed (hh : Happens c (.handed i y) c') :
    ∃ t ∈ c.reporting.tasks, t.ticker = i ∧ ∃ r, t.phase = .sending r y := by
  generalize he : Event.handed i y = e at hh
  cases hh with
  | @task k t s ht hs => exact ⟨t, ht, event_eq_handed he.symm⟩
  | breaks | admits | removes | stops | around => cases he

theorem orderly_of_none (ha : a.event.admission? = none) : a.Orderly key := by
  intro i hi
  rw [hi] at ha
  cases ha

/-- A report was built from an entry of the key under which its task was admitted, and names the
first action of that entry. The entry is the task's own or that of a later admission. It is the
task's own if the key was only ever admitted in order. -/
theorem handed_attributed (ht : Trace (start p epoch) ss c) (ha : a ∈ ss)
    (he : a.event = .handed i y) :
    ((admitted ss).map Subscription.ticker).Nodup ∧ ∃ own ∈ admitted ss, ∃ u ∈ admitted ss,
      own.ticker = some i ∧ u.key = own.key ∧ y.request = own.key.request ∧
      y.function = own.key.function ∧ u.accepted.head? = some y.action ∧
      (∃ j, u.ticker = some j ∧ i.val ≤ j.val) ∧ ((∀ b ∈ ss, b.Orderly own.key) → u = own) := by
  obtain ⟨before, after, rfl, hb, hh⟩ := ht.split ha
  rw [he] at hh
  obtain ⟨t, hm, rfl, r, hp⟩ := sending_of_handed hh
  obtain ⟨b, hb', t', u, hi, hbuilds⟩ := hb.builds hm hp
  obtain ⟨before', after', rfl, hb'', -⟩ := hb.split hb'
  have hsub : admitted before' ⊆ admitted (before' ++ b :: after' ++ a :: after) := by
    intro v hv
    simp only [admitted, List.filterMap_append, List.mem_append]
    exact .inl (.inl hv)
  have hu := hb''.mem_of_stored hbuilds.found
  obtain ⟨own, hown, hk, hj⟩ := hb''.mem_admitted
    (hb''.course.accounted.tasks t' hbuilds.task)
  rw [hi] at hj
  have huk := hb''.key_of_stored hbuilds.found
  refine ⟨ht.nodup, own, hsub hown, u, hsub hu, hj, huk.trans hk.symm, ?_, ?_, hbuilds.action, ?_,
    fun ho => ?_⟩
  · rw [hk]
    exact hbuilds.request
  · rw [hk]
    exact hbuilds.function
  · rw [← hi]
    exact hb''.later hbuilds.task hbuilds.found
  · have hplace := hb''.place (fun c hc => ho c ?_) hbuilds.task hk.symm
    · refine List.inj_on_of_nodup_map ht.nodup (hsub hu) (hsub hown) (Eq.trans ?_ hj.symm)
      cases hplace with
      | own v hv hvi =>
          cases hbuilds.found.symm.trans hv
          rw [hvi, hi]
      | leaving hn => cases hn.symm.trans hbuilds.found
      | stopped _ hl =>
          obtain ⟨r, hr⟩ := hbuilds.looking
          exact absurd hr (hl r)
    · simp [hc]

theorem readmitted_attributed :
    ∃ ss c a y own, Trace (start .empty 0) ss c ∧ a ∈ ss ∧ a.event = .handed ⟨1⟩ y ∧
      (∀ key, ∀ b ∈ ss, b.Orderly key) ∧ own ∈ admitted ss ∧ own.ticker = some ⟨1⟩ ∧
      own.accepted.head? = some y.action ∧ y.action = ⟨6⟩ := by
  let r (action : ActionId) : SubscriptionRequest :=
    ⟨⟨1, 2⟩, functionId, [100, 0, 0, 0], [⟨action, .report, none⟩]⟩
  let key := SubscriptionKey.of (r ⟨5⟩).request functionId
  let k : Service := ⟨⟨⟨1⟩, ⟨⟨1, 3, 8⟩, ⟨4, 2, 6⟩, 3⟩⟩, .standard, []⟩
  let s₀ : Reporting := { Reporting.start .empty 0 with links := [.fresh false 5] }
  let s₁ := (k.subscription ⟨0⟩ (r ⟨5⟩) s₀).2
  let s₂ := s₁.run k 1
  let u : Subscription := ⟨key, [⟨5⟩], .none, ⟨0⟩, some ⟨0⟩⟩
  let s₃ : Reporting := { s₂ with subscriptions := ⟨s₂.subscriptions.entries.erase key⟩ }
  let s₄ := s₃.silence u
  let s₅ := (k.subscription ⟨0⟩ (r ⟨6⟩) s₄).2
  let s₆ := s₅.run k 2
  let s₇ := (s₆.atTime 100).run k 2
  let action? : Event → Option ActionId
    | .handed _ y => some y.action
    | _ => none
  let looks : Phase → Bool
    | .looking _ => true
    | _ => false
  have hstart : Happens (start .empty 0) .other ⟨s₀, []⟩ := .around 0 [.fresh false 5] .empty
  have hadmit : Happens ⟨s₀, []⟩ (.admitted key ⟨0⟩) ⟨s₁, []⟩ := .admits k ⟨0⟩ (r ⟨5⟩) rfl
  obtain ⟨ss₂, h₂, hn₂⟩ : ∃ ss, Trace ⟨s₁, []⟩ ss ⟨s₂, []⟩ ∧ _ := run_trace k 1 ⟨s₁, []⟩
  have hremove : Happens ⟨s₂, []⟩ (.removed key) ⟨s₃, [u]⟩ :=
    .removes (Reporting.take_eq_ok_iff.2 ⟨by decide, rfl⟩)
  have hstop : Happens ⟨s₃, [u]⟩ (.deleted (some ⟨0⟩)) ⟨s₄, []⟩ := @Happens.stops _ [] u [] rfl
  have hagain : Happens ⟨s₄, []⟩ (.admitted key ⟨1⟩) ⟨s₅, []⟩ := by
    have hn : s₄.tickers.next = ⟨1⟩ := by decide
    rw [← hn]
    exact .admits k ⟨0⟩ (r ⟨6⟩) (m := ⟨(r ⟨6⟩).request, functionId, [⟨6⟩], []⟩) (by decide)
  have hlook : ∀ t ∈ s₄.tasks, looks t.phase = false := by decide
  obtain ⟨ss₆, h₆, hn₆⟩ : ∃ ss, Trace ⟨s₅, []⟩ ss ⟨s₆, []⟩ ∧ _ := run_trace k 2 ⟨s₅, []⟩
  have hwait : Happens ⟨s₆, []⟩ .other ⟨s₆.atTime 100, []⟩ := .around 100 s₆.links s₆.population
  obtain ⟨ss₇, h₇, hn₇⟩ : ∃ ss, Trace ⟨s₆.atTime 100, []⟩ ss ⟨s₇, []⟩ ∧ _ :=
    run_trace k 2 ⟨s₆.atTime 100, []⟩
  obtain ⟨t, ht, hi, hy, hs⟩ : ∃ t ∈ s₇.tasks, t.ticker = ⟨1⟩ ∧ action? (event t) = some ⟨6⟩ ∧
      (s₇.step? k t).isSome = true := by
    decide
  obtain ⟨s, hs⟩ := Option.isSome_iff_exists.1 hs
  clear_value s₇ s₆ s₅ s₄ s₃ s₂ s₁
  have hsend : Happens ⟨s₇, []⟩ (event t) ⟨s, []⟩ := .task k ht hs
  obtain ⟨ss, htrace, ho⟩ : ∃ ss, Trace (start .empty 0) ss ⟨s₇, []⟩ ∧
      ∀ key, ∀ b ∈ ss, b.Orderly key := by
    have h₅ := ((((Trace.refl.tail hstart).tail hadmit).trans h₂).tail hremove).tail hstop
    refine ⟨_, (((h₅.tail hagain).trans h₆).tail hwait).trans h₇, fun key => ?_⟩
    simp only [List.forall_mem_append, List.forall_mem_singleton, List.nil_append]
    refine ⟨⟨⟨⟨⟨⟨⟨⟨orderly_of_none rfl, fun _ _ => ⟨nofun, nofun⟩⟩,
      fun b hb => orderly_of_none (hn₂ b hb)⟩, orderly_of_none rfl⟩, orderly_of_none rfl⟩,
      fun _ _ => ⟨nofun, fun t ht _ r hr => ?_⟩⟩, fun b hb => orderly_of_none (hn₆ b hb)⟩,
      orderly_of_none rfl⟩, fun b hb => orderly_of_none (hn₇ b hb)⟩
    have hl := hlook t ht
    rw [hr] at hl
    cases hl
  cases he : event t with
  | handed i y =>
      obtain rfl : ⟨1⟩ = i := hi.symm.trans (event_eq_handed he).1
      rw [he] at hsend hy
      have ha := List.mem_append_right ss
        (List.mem_singleton_self (Step.mk ⟨s₇, []⟩ (.handed ⟨1⟩ y) ⟨s, []⟩))
      have ho (key : SubscriptionKey) : ∀ b ∈ ss ++ [⟨⟨s₇, []⟩, .handed ⟨1⟩ y, ⟨s, []⟩⟩],
          b.Orderly key :=
        List.forall_mem_append.2 ⟨ho key, List.forall_mem_singleton.2 (orderly_of_none rfl)⟩
      obtain ⟨-, own, hown, v, -, hoi, -, -, -, hva, -, hv⟩ :=
        handed_attributed (htrace.tail hsend) ha rfl
      obtain rfl := hv (ho own.key)
      exact ⟨_, _, _, y, v, htrace.tail hsend, ha, rfl, ho, hown, hoi, hva, Option.some.inj hy⟩
  | _ => simp [he, action?] at hy

/-- A key is deleted and admitted again while its first task has ticked and not looked yet. The task
reports on the second admission. -/
theorem late_look_misattributed :
    ¬ ∀ p epoch ss c a i y own, Trace (start p epoch) ss c → a ∈ ss → a.event = .handed i y →
      own ∈ admitted ss → own.ticker = some i → own.accepted.head? = some y.action := by
  intro h
  let r (action : ActionId) : SubscriptionRequest :=
    ⟨⟨1, 2⟩, functionId, [100, 0, 0, 0], [⟨action, .report, none⟩]⟩
  let key := SubscriptionKey.of (r ⟨5⟩).request functionId
  let k : Service := ⟨⟨⟨1⟩, ⟨⟨1, 3, 8⟩, ⟨4, 2, 6⟩, 3⟩⟩, .standard, []⟩
  let u : Subscription := ⟨key, [⟨5⟩], .none, ⟨0⟩, some ⟨0⟩⟩
  let s₀ : Reporting := { Reporting.start .empty 0 with links := [.fresh false 5] }
  let s₁ := (k.subscription ⟨0⟩ (r ⟨5⟩) s₀).2
  let s₂ := s₁.run k 1
  let s₃ : Reporting := { s₂ with now := 100, subscriptions := ⟨s₂.subscriptions.entries.erase key⟩ }
  let s₄ := (k.subscription ⟨0⟩ (r ⟨6⟩) s₃).2
  let s₅ := s₄.run k 2
  let action? : Event → Option ActionId
    | .handed _ y => some y.action
    | _ => none
  let admission : Step := ⟨⟨s₀, []⟩, .admitted key ⟨0⟩, ⟨s₁, []⟩⟩
  obtain ⟨ss₁, h₁, hm₁⟩ : ∃ ss, Trace (start .empty 0) ss ⟨s₁, []⟩ ∧ admission ∈ ss :=
    ⟨_, (Trace.refl.tail (.around 0 [.fresh false 5] .empty)).tail (.admits k ⟨0⟩ (r ⟨5⟩) rfl),
      List.mem_append_right _ (List.mem_singleton_self _)⟩
  obtain ⟨ss₂, h₂, -⟩ : ∃ ss, Trace ⟨s₁, []⟩ ss ⟨s₂, []⟩ ∧ _ := run_trace k 1 ⟨s₁, []⟩
  have hwait : Happens ⟨s₂, []⟩ .other ⟨s₂.atTime 100, []⟩ := .around 100 s₂.links s₂.population
  have hremove : Happens ⟨s₂.atTime 100, []⟩ (.removed key) ⟨s₃, [u]⟩ :=
    .removes (Reporting.take_eq_ok_iff.2 ⟨by decide, rfl⟩)
  have hadmit : Happens ⟨s₃, [u]⟩ (.admitted key s₃.tickers.next) ⟨s₄, [u]⟩ :=
    .admits k ⟨0⟩ (r ⟨6⟩) (m := ⟨(r ⟨6⟩).request, functionId, [⟨6⟩], []⟩) (by decide)
  have h₃ := ((Trace.refl.tail hwait).tail hremove).tail hadmit
  obtain ⟨ss₄, h₄, -⟩ : ∃ ss, Trace ⟨s₄, [u]⟩ ss ⟨s₅, [u]⟩ ∧ _ := run_trace k 2 ⟨s₄, [u]⟩
  obtain ⟨t, ht, hi, hy, hs⟩ : ∃ t ∈ s₅.tasks, t.ticker = ⟨0⟩ ∧ action? (event t) = some ⟨6⟩ ∧
      (s₅.step? k t).isSome = true := by
    decide
  obtain ⟨s, hs⟩ := Option.isSome_iff_exists.1 hs
  have hu : admission.stores? = some u := rfl
  clear_value admission s₅ s₄ s₃ s₂ s₁
  have hsend : Happens ⟨s₅, [u]⟩ (event t) ⟨s, [u]⟩ := .task k ht hs
  have h₅ := (((h₁.trans h₂).trans h₃).trans h₄).tail hsend
  cases he : event t with
  | handed i y =>
      obtain rfl : ⟨0⟩ = i := hi.symm.trans (event_eq_handed he).1
      have hfirst := h _ _ _ _ _ _ y u h₅ (List.mem_append_right _ (List.mem_singleton_self _)) he
        (List.mem_filterMap.2 ⟨admission, by simp [hm₁], hu⟩) rfl
      rw [he] at hy
      cases hfirst.trans hy
  | _ => simp [he, action?] at hy

end Overlap

end E2Node.Kpm
