import E2Node.Proofs.Kpm.Acts
import E2Node.Proofs.Kpm.Allotment

namespace E2Node.Kpm.Overlap

variable {k : Service} {c : Overlap} {key key' : SubscriptionKey} {made : List TickerId}
  {s s' : Reporting} {t : ReportTask} {n : Nat} {a : Act} {acts : List Act}

def only (key : SubscriptionKey) (made : List TickerId) (c : Overlap) : Overlap :=
  ⟨c.reporting.only key made, (c.deleting.filter (·.key = key)).map (.among made)⟩

structure Parted (key : SubscriptionKey) (made : List TickerId) (c : Overlap) : Prop where
  reporting : c.reporting.Parted key made
  given : ∀ e ∈ c.deleting, ∀ i, e.ticker = some i → i.val < c.reporting.tickers.created
  deleting : ∀ e ∈ c.deleting, ∀ i, e.ticker = some i → (i ∈ made ↔ e.key = key)

theorem task?_only : task? key n (s.only key made) = (task? key n s).map (.among made) := by
  have h : pick? (·.key = key) n (s.only key made).tasks =
      (pick? (·.key = key) n s.tasks).map fun r => (r.1.among made, tasksOf key made r.2) :=
    pick?_filter_map fun _ => rfl
  rw [task?, h, task?, Option.map_map, Option.map_map]
  rfl

theorem task?_only_of_ne (hk : key' ≠ key) : task? key' n (s.only key made) = none := by
  have h : ∀ x ∈ (s.only key made).tasks, decide (x.key = key') = false := by
    intro x hx
    obtain ⟨y, hy, rfl⟩ := List.mem_map.1 hx
    rw [among_key, of_decide_eq_true (List.mem_filter.1 hy).2]
    exact decide_eq_false hk.symm
  rw [task?, pick?_eq_none h]
  rfl

/-- What a task does stays with the part of its key. -/
structure Local (key : SubscriptionKey) (made : List TickerId) (s : Reporting)
    (f : Reporting → ReportTask → Option Reporting) : Prop where
  created : ∀ t s', f s t = some s' → s'.tickers.created = s.tickers.created
  parted : ∀ t ∈ s.tasks, ∀ s', f s t = some s' → s'.Parted key made
  own : ∀ t ∈ s.tasks, t.key = key →
    f (s.only key made) (t.among made) = (f s t).map (.only key made)
  others : ∀ t ∈ s.tasks, t.key ≠ key → ∀ s', f s t = some s' →
    s'.only key made = s.only key made

theorem local_step? (h : s.Parted key made) : Local key made s fun s t => s.step? k t where
  created _ _ hs := (Reporting.taskStep_of_step? hs).created_eq
  parted _ ht _ hs := h.taskStep ht (Reporting.taskStep_of_step? hs)
  own _ ht hk := Reporting.step?_only h ht hk
  others _ ht hk _ hs := (Reporting.taskStep_of_step? hs).only_eq h ht hk

theorem local_cut? (k : Service) (h : s.Parted key made) : Local key made s Reporting.cut? where
  created _ _ hs := (Reporting.taskStep_of_cut? k hs).created_eq
  parted _ ht _ hs := h.taskStep ht (Reporting.taskStep_of_cut? k hs)
  own t ht hk := by
    have hi : t.ticker ∈ made := (h.tasks t ht).2 hk
    rw [Reporting.cut?, among_phase, Reporting.cut?]
    cases t.phase with
    | inFlight r x done => exact congrArg some (Reporting.setPhase_only hi).symm
    | _ => rfl
  others _ ht hk _ hs := (Reporting.taskStep_of_cut? k hs).only_eq h ht hk

theorem Local.byTask {f : Reporting → ReportTask → Option Reporting} (hf : Local key made s f)
    (h : s.Parted key made) (key' : SubscriptionKey) (n : Nat) :
    byTask f key' n (s.only key made) = (byTask f key' n s).only key made ∧
      (byTask f key' n s).Parted key made ∧
      (byTask f key' n s).tickers.created = s.tickers.created := by
  rw [Overlap.byTask, Overlap.byTask]
  cases hx : task? key' n s with
  | none =>
      have hn : task? key' n (s.only key made) = none := by
        by_cases hk : key' = key
        · rw [hk, task?_only, ← hk, hx]
          rfl
        · exact task?_only_of_ne hk
      rw [hn]
      exact ⟨rfl, h, rfl⟩
  | some t =>
      obtain ⟨ht, rfl⟩ := mem_of_task? hx
      rw [Option.bind_some]
      refine ⟨?_, ?_⟩
      · by_cases hk : t.key = key
        · rw [hk, task?_only, ← hk, hx, Option.map_some, Option.bind_some, hk, hf.own t ht hk]
          cases f s t <;> rfl
        · rw [task?_only_of_ne hk]
          cases hs : f s t with
          | none => rfl
          | some s' => exact (hf.others t ht hk s' hs).symm
      · cases hs : f s t with
        | none => exact ⟨h, rfl⟩
        | some s' => exact ⟨hf.parted t ht s' hs, hf.created t s' hs⟩

theorem Parted.of_created (h : c.Parted key made) (hs : s.Parted key made)
    (hc : s.tickers.created = c.reporting.tickers.created) :
    Parted key made { c with reporting := s } where
  reporting := hs
  given e he i hi := by
    rw [hc]
    exact h.given e he i hi
  deleting := h.deleting

theorem Parted.around (h : c.Parted key made) (now : Nat) (links : List Link) (p : Population) :
    Parted key made { c with
      reporting := { c.reporting with now := now, links := links, population := p } } :=
  h.of_created ⟨⟨h.reporting.numbered.tasks, h.reporting.numbered.stopped,
    h.reporting.numbered.entries⟩, h.reporting.given, h.reporting.tasks, h.reporting.carried,
    h.reporting.keyed, h.reporting.entries⟩ rfl

/-- What an act does to the whole it does to the part of a key, unless it is a request for another
key. Such a request does nothing to the part. -/
structure Splits (k : Service) (key : SubscriptionKey) (a : Act) (c : Overlap)
    (made made' : List TickerId) : Prop where
  parted : (perform k c a).2.Parted key made'
  own : isFor key a = true →
    perform k (c.only key made) a = ((perform k c a).1, (perform k c a).2.only key made')
  others : isFor key a = false → (perform k c a).2.only key made' = c.only key made

theorem Splits.of_reporting (f : Reporting → Reporting) (h : c.Parted key made)
    (ha : a.request? = none)
    (hf : ∀ c, perform k c a = (none, { c with reporting := f c.reporting }))
    (hp : (f c.reporting).Parted key made)
    (hc : (f c.reporting).tickers.created = c.reporting.tickers.created)
    (ho : f (c.reporting.only key made) = (f c.reporting).only key made) :
    Splits k key a c made made where
  parted := by
    rw [hf]
    exact h.of_created hp hc
  own _ := by
    rw [hf, hf, only, ho, only]
  others hn := by
    rw [isFor, ha] at hn
    cases hn

theorem Parted.deleting_granted {made' : List TickerId} (h : c.Parted key made)
    (hm : made' = made ∨ made' = Reporting.granted key key' made c.reporting) :
    (c.deleting.filter (·.key = key)).map (Subscription.among made') =
      (c.deleting.filter (·.key = key)).map (Subscription.among made) := by
  rcases hm with rfl | rfl
  · rfl
  · refine List.map_congr_left fun e he => ?_
    obtain ⟨he, hk⟩ := List.mem_filter.1 he
    rw [Subscription.among, Subscription.among]
    cases hi : e.ticker with
    | none => rfl
    | some i =>
        have hi := (h.deleting e he i hi).2 (of_decide_eq_true hk)
        rw [Option.map_some, Reporting.among_granted hi, Option.map_some]

theorem subscribe_splits (h : c.Parted key made) (id : SessionId) (r : SubscriptionRequest) :
    ∃ made', Splits k key (.subscribe id r) c made made' := by
  obtain ⟨made', hm, hp, ho, hn⟩ := Reporting.subscription_only (k := k) (n := id) h.reporting r
  have hd := h.deleting_granted hm
  refine ⟨made', ⟨hp, fun e he i hi => ?_, fun e he i hi => ?_⟩, fun hk => ?_, fun hk => ?_⟩
  · exact Nat.lt_of_lt_of_le (h.given e he i hi) (Reporting.subscription_created_le k id r _)
  · rcases hm with rfl | rfl
    · exact h.deleting e he i hi
    · rw [Reporting.mem_granted_of_lt (h.given e he i hi)]
      exact h.deleting e he i hi
  · simp only [perform, only, hd, ho (of_decide_eq_true hk)]
  · simp only [perform, only, hd, hn (of_decide_eq_false hk)]

theorem take_only (s : Reporting) : (s.only key made).take key =
    (s.take key).map fun o => (o.1.among made, o.2.only key made) := by
  rw [Reporting.take, Reporting.only_subscriptions, remove_only, Reporting.take]
  cases s.subscriptions.remove key <;> rfl

theorem Parted.take (h : c.Parted key made) {e : Subscription}
    (hr : c.reporting.take key' = .ok (e, s)) : Parted key made ⟨s, e :: c.deleting⟩ := by
  obtain ⟨hg, rfl⟩ := Reporting.take_eq_ok_iff.1 hr
  have he : ∀ key u, (c.reporting.subscriptions.entries.erase key').get? key = some u →
      c.reporting.subscriptions.entries.get? key = some u := by
    intro key u hu
    rw [Table.get?_erase] at hu
    split at hu
    · cases hu
    · exact hu
  have hn := h.reporting.numbered
  have hn' : Reporting.Numbered { c.reporting with
      subscriptions := ⟨c.reporting.subscriptions.entries.erase key'⟩ } :=
    ⟨hn.tasks, hn.stopped, fun key u i hu => hn.entries key u i (he key u hu)⟩
  refine ⟨h.reporting.keep hn' rfl (fun _ hx => h.reporting.old hx) he, fun u hu i hi => ?_,
    fun u hu i hi => ?_⟩
  · rcases List.mem_cons.1 hu with rfl | hu
    · exact hn.entries key' u i hg hi
    · exact h.given u hu i hi
  · rcases List.mem_cons.1 hu with rfl | hu
    · rw [h.reporting.keyed key' u hg]
      exact h.reporting.entries key' u i hg hi
    · exact h.deleting u hu i hi

theorem take_splits (h : c.Parted key made) (r : SubscriptionDeleteRequest) :
    Splits k key (.take r) c made made := by
  cases hm : c.reporting.take (.of r.request r.function) with
  | error e =>
      refine ⟨?_, fun hk => ?_, fun _ => ?_⟩
      · rwa [perform, hm]
      · have hk := of_decide_eq_true hk
        have ho : (c.only key made).reporting.take (.of r.request r.function) = .error e := by
          rw [only, hk, take_only, ← hk, hm]
          rfl
        rw [perform, ho, perform, hm]
      · rw [perform, hm]
  | ok o =>
      obtain ⟨e, s⟩ := o
      obtain ⟨hg, hs⟩ := Reporting.take_eq_ok_iff.1 hm
      have he := h.reporting.keyed _ _ hg
      refine ⟨?_, fun hk => ?_, fun hk => ?_⟩
      · rw [perform, hm]
        exact h.take hm
      · have hk := of_decide_eq_true hk
        have ho : (c.only key made).reporting.take (.of r.request r.function) =
            .ok (e.among made, s.only key made) := by
          rw [only, hk, take_only, ← hk, hm]
          rfl
        have hd : (e :: c.deleting).filter (·.key = key) = e :: c.deleting.filter (·.key = key) :=
          List.filter_cons_of_pos (decide_eq_true (he.trans hk))
        rw [perform, ho, perform, hm]
        simp only [only, hd]
        rfl
      · have hk := of_decide_eq_false hk
        have ho : s.only key made = c.reporting.only key made := by
          have hg' : s.subscriptions.only key made = c.reporting.subscriptions.only key made := by
            rw [hs]
            exact only_eq_of_get? ((Table.get?_erase ..).trans (if_neg fun h => hk h.symm))
          rw [Reporting.only, hg', hs]
          rfl
        have hd : (e :: c.deleting).filter (·.key = key) = c.deleting.filter (·.key = key) :=
          List.filter_cons_of_neg (by simp [he, hk])
        simp only [perform, hm, only, ho, hd]

theorem silence_only {e : Subscription} (hi : ∀ i, e.ticker = some i → i ∈ made) :
    (s.silence e).only key made = (s.only key made).silence (e.among made) := by
  rw [Reporting.silence, Reporting.silence, Subscription.among]
  cases he : e.ticker with
  | none => rfl
  | some i =>
      simp only [Option.map_some, Reporting.only_tickers, ← Kpm.stop_only (hi i he)]
      rfl

theorem silence_only_of_notMem {e : Subscription} (hi : ∀ i, e.ticker = some i → i ∉ made) :
    (s.silence e).only key made = s.only key made := by
  rw [Reporting.silence]
  cases he : e.ticker with
  | none => rfl
  | some i =>
      rw [Reporting.only, Kpm.stop_only_of_notMem (hi i he)]
      rfl

theorem Parted.silence (h : c.Parted key made) {e : Subscription}
    {before after : List Subscription} (hd : c.deleting = before ++ e :: after) :
    Parted key made ⟨c.reporting.silence e, before ++ after⟩ := by
  have hs : ∀ u ∈ before ++ after, u ∈ c.deleting := by
    intro u hu
    rw [hd]
    exact (List.sublist_cons_self e after).append_left before |>.subset hu
  have hn := h.reporting.numbered
  refine ⟨h.reporting.keep ⟨?_, ?_, ?_⟩ (Reporting.silence_created ..) ?_ ?_, ?_, ?_⟩
  · rw [Reporting.silence_tasks, Reporting.silence_created]
    exact hn.tasks
  · intro i hi
    rw [Reporting.silence_created]
    rcases (Reporting.mem_silence_stopped ..).1 hi with hi | hi
    · exact h.given e (by simp [hd]) i hi
    · exact hn.stopped i hi
  · rw [Reporting.silence_subscriptions, Reporting.silence_created]
    exact hn.entries
  · rw [Reporting.silence_tasks]
    exact fun _ hx => h.reporting.old hx
  · rw [Reporting.silence_subscriptions]
    exact fun _ _ he => he
  · intro u hu i hi
    rw [Reporting.silence_created]
    exact h.given u (hs u hu) i hi
  · exact fun u hu => h.deleting u (hs u hu)

theorem silence_splits (h : c.Parted key made) (key' : SubscriptionKey) (n : Nat) :
    Splits k key (.silence key' n) c made made := by
  have own : pick? (·.key = key) n (c.only key made).deleting =
      (pick? (·.key = key) n c.deleting).map fun r =>
        (r.1.among made, (r.2.filter (·.key = key)).map (.among made)) :=
    pick?_filter_map fun _ => rfl
  cases hm : pick? (·.key = key') n c.deleting with
  | none =>
      refine ⟨?_, fun hk => ?_, fun _ => ?_⟩
      · rwa [perform, hm]
      · have hk := of_decide_eq_true hk
        subst hk
        rw [perform, own, hm, perform, hm]
        rfl
      · rw [perform, hm]
  | some o =>
      obtain ⟨e, rest⟩ := o
      obtain ⟨he, before, after, hd, rfl⟩ := pick?_eq_some hm
      have he := of_decide_eq_true he
      have hi := h.deleting e (by simp [hd])
      refine ⟨?_, fun hk => ?_, fun hk => ?_⟩
      · rw [perform, hm]
        exact h.silence hd
      · have hk := of_decide_eq_true hk
        subst hk
        rw [perform, own, hm, perform, hm]
        have ho : (c.reporting.silence e).only key' made =
            (c.reporting.only key' made).silence (e.among made) :=
          silence_only fun i hj => (hi i hj).2 he
        simp only [only, ho, Option.map_some]
      · have hk := of_decide_eq_false hk
        have ho : (c.reporting.silence e).only key made = c.reporting.only key made :=
          silence_only_of_notMem fun i hj => mt (hi i hj).1 fun h => hk (he.symm.trans h)
        rw [perform, hm]
        simp [only, ho, hd, he, hk]

theorem exists_splits (h : c.Parted key made) (a : Act) :
    ∃ made', Splits k key a c made made' := by
  have still (links : List Link) :=
    (h.around c.reporting.now links c.reporting.population).reporting
  cases a with
  | subscribe id r => exact subscribe_splits h id r
  | take r => exact ⟨made, take_splits h r⟩
  | silence key' n => exact ⟨made, silence_splits h key' n⟩
  | turn key' n =>
      obtain ⟨ho, hp, hc⟩ := (local_step? h.reporting).byTask h.reporting key' n
      exact ⟨made, .of_reporting _ h rfl (fun _ => rfl) hp hc ho⟩
  | cut key' n =>
      obtain ⟨ho, hp, hc⟩ := (local_cut? k h.reporting).byTask h.reporting key' n
      exact ⟨made, .of_reporting _ h rfl (fun _ => rfl) hp hc ho⟩
  | pass millis =>
      exact ⟨made, .of_reporting (fun s => s.atTime (s.now + millis)) h rfl (fun _ => rfl)
        (h.around _ _ _).reporting rfl rfl⟩
  | populate p =>
      exact ⟨made, .of_reporting (fun s => { s with population := p }) h rfl (fun _ => rfl)
        (h.around _ _ _).reporting rfl rfl⟩
  | connect failing delay =>
      refine ⟨made, .of_reporting
        (fun s => { s with links := s.links ++ [.fresh failing delay] }) h rfl (fun _ => rfl)
        (still _) rfl ?_⟩
      simp [Reporting.only, Link.only, Link.fresh]
  | waver id failing delay =>
      exact ⟨made, .of_reporting
        (·.modifyLink id fun l => { l with failing := failing, sendDelay := delay }) h rfl
        (fun _ => rfl) (still _) rfl (.symm (Reporting.modifyLink_only fun _ => rfl))⟩
  | close id =>
      exact ⟨made, .of_reporting (·.modifyLink id Link.close) h rfl (fun _ => rfl) (still _) rfl
        (.symm (Reporting.modifyLink_only fun _ => rfl))⟩

theorem request?_of_perform {r : SubscriptionKey × Reply} (h : (perform k c a).1 = some r) :
    a.request? = some r.1 := by
  cases a with
  | subscribe id r =>
      cases h
      rfl
  | take r =>
      rw [perform] at h
      split at h
      · cases h
        rfl
      · cases h
  | silence key' n =>
      rw [perform] at h
      split at h
      · cases h
        rfl
      · cases h
  | _ => cases h

theorem replies_filter (k : Service) (c : Overlap) (key : SubscriptionKey) (a : Act) :
    (perform k c a).1.toList.filter (·.1 = key) =
      if isFor key a then (perform k c a).1.toList else [] := by
  cases hr : (perform k c a).1 with
  | none => simp
  | some r =>
      have hk : isFor key a = decide (r.1 = key) := by
        rw [isFor, request?_of_perform hr, Option.all_some]
      by_cases h : r.1 = key <;> simp [hk, h]

def alone (key : SubscriptionKey) (acts : List Act) : List Act := acts.filter (isFor key)

theorem exec_alone (h : c.Parted key made) (acts : List Act) :
    ∃ made', (exec k c acts).2.Parted key made' ∧
      exec k (c.only key made) (alone key acts) =
        ((exec k c acts).1.filter (·.1 = key), (exec k c acts).2.only key made') := by
  induction acts generalizing c made with
  | nil => exact ⟨made, h, rfl⟩
  | cons a acts ih =>
      obtain ⟨made₁, ha⟩ := exists_splits (k := k) h a
      obtain ⟨made₂, hp, he⟩ := ih ha.parted
      refine ⟨made₂, hp, ?_⟩
      rw [alone] at he
      rw [exec, List.filter_append, replies_filter, alone]
      cases hk : isFor key a with
      | true =>
          rw [List.filter_cons_of_pos hk, exec, ha.own hk, if_pos rfl]
          simp only [he]
      | false =>
          rw [List.filter_cons_of_neg (by simp [hk]), ← ha.others hk, he,
            if_neg Bool.false_ne_true, List.nil_append]

structure Shown where
  accepted : List ActionId
  refused : Refusals
  session : SessionId
  stopped : Option Bool
  deriving DecidableEq

/-- What there is to be seen of a key: the answers to its requests, its entry and what was sent for
it on each session. -/
structure View where
  replies : List Reply
  entry : Option Shown
  sent : List (List Sent)

def shown (s : Reporting) (e : Subscription) : Shown :=
  ⟨e.accepted, e.refused, e.session, e.ticker.map s.tickers.isStopped⟩

def view (key : SubscriptionKey) (o : List (SubscriptionKey × Reply) × Overlap) : View where
  replies := (o.1.filter (·.1 = key)).map Prod.snd
  entry := (o.2.stored? key).map (shown o.2.reporting)
  sent := o.2.reporting.links.map fun l => l.sent.filter (·.key = key)

theorem start_parted (key : SubscriptionKey) (p : Population) (epoch : Int) :
    (start p epoch).Parted key [] where
  reporting :=
    { numbered := .start p epoch
      given := fun _ hi => by cases hi
      tasks := fun _ ht => by cases ht
      carried := fun _ ht => by cases ht
      keyed := fun _ _ he => by cases he
      entries := fun _ _ _ he => by cases he }
  given _ he := by cases he
  deleting _ he := by cases he

theorem shown_among (h : s.Parted key made) {e : Subscription}
    (he : s.subscriptions.entries.get? key = some e) :
    shown (s.only key made) (e.among made) = shown s e := by
  have hs : (e.among made).ticker.map (s.only key made).tickers.isStopped =
      e.ticker.map s.tickers.isStopped := by
    rw [Subscription.among]
    cases hi : e.ticker with
    | none => rfl
    | some i => exact congrArg some (isStopped_only ((h.entries key e i he hi).2 rfl) s.tickers)
  rw [shown, hs, shown]
  rfl

theorem view_only (h : c.Parted key made) (rs : List (SubscriptionKey × Reply)) :
    view key (rs.filter (·.1 = key), c.only key made) = view key (rs, c) := by
  have hr : ((rs.filter (·.1 = key)).filter (·.1 = key)) = rs.filter (·.1 = key) := by
    simp
  have he : ((c.only key made).stored? key).map (shown (c.only key made).reporting) =
      (c.stored? key).map (shown c.reporting) := by
    rw [stored?, only, Reporting.only_subscriptions, get?_only, if_pos rfl, stored?]
    cases hg : c.reporting.subscriptions.entries.get? key with
    | none => rfl
    | some e => exact congrArg some (shown_among h.reporting hg)
  have hs : ((c.only key made).reporting.links.map fun l => l.sent.filter (·.key = key)) =
      c.reporting.links.map fun l => l.sent.filter (·.key = key) := by
    simp [only, Reporting.only, Link.only]
  simp only [view, hr, he, hs]

theorem view_alone (k : Service) (p : Population) (epoch : Int) (key : SubscriptionKey)
    (acts : List Act) : view key (exec k (start p epoch) (alone key acts)) =
      view key (exec k (start p epoch) acts) := by
  obtain ⟨made, hp, he⟩ := exec_alone (k := k) (start_parted key p epoch) acts
  exact (congrArg (view key) he).trans (view_only hp _)

theorem alone_eq_nil (hk : key' ≠ key) (h : ∀ a ∈ acts, a.request? = some key') :
    alone key acts = [] := by
  refine List.filter_eq_nil_iff.2 fun a ha => ?_
  rw [isFor, h a ha, Option.all_some, decide_eq_true_eq]
  exact hk

/-- The requests for other keys have no part in the view of a key, at any time. Hence the steps of
requests for different keys can be swapped. The acts are what requests and tasks can do, however
their steps overlap. -/
theorem requests_independent (k : Service) (p : Population) (epoch : Int) :
    (∀ acts, (∃ es, Course (start p epoch) es (exec k (start p epoch) acts).2) ∧
      Told k (exec k (start p epoch) acts).2) ∧
    (∀ acts key, view key (exec k (start p epoch) (alone key acts)) =
      view key (exec k (start p epoch) acts)) ∧
    ∀ before xs ys after key₁ key₂, key₁ ≠ key₂ → (∀ a ∈ xs, a.request? = some key₁) →
      (∀ a ∈ ys, a.request? = some key₂) →
        ∀ key, view key (exec k (start p epoch) (before ++ xs ++ ys ++ after)) =
          view key (exec k (start p epoch) (before ++ ys ++ xs ++ after)) := by
  refine ⟨fun acts => ⟨exec_course k acts _, told k fun key u hu => ?_⟩,
    fun acts key => view_alone k p epoch key acts,
    fun before xs ys after key₁ key₂ hne hx hy key => ?_⟩
  · obtain ⟨made, hp, -⟩ := exec_alone (k := k) (start_parted key p epoch) acts
    exact hp.reporting.keyed key u hu
  have swap :
      alone key (before ++ xs ++ ys ++ after) = alone key (before ++ ys ++ xs ++ after) := by
    have append (as bs : List Act) : alone key (as ++ bs) = alone key as ++ alone key bs :=
      List.filter_append ..
    simp only [append]
    by_cases hk : key₁ = key
    · rw [alone_eq_nil (fun h => hne (hk.trans h.symm)) hy, List.append_nil, List.append_nil]
    · rw [alone_eq_nil hk hx, List.append_nil, List.append_nil]
  rw [← view_alone, swap, view_alone]

/-- Two subscriptions share a session, and one of them is deleted before its first report. The other
reports all the same, whichever was first. -/
theorem shared_session_independent :
    let k : Service := ⟨⟨⟨1⟩, ⟨⟨1, 3, 8⟩, ⟨4, 2, 6⟩, 3⟩⟩, .standard, []⟩
    let r (n : UInt32) : SubscriptionRequest :=
      ⟨⟨1, n⟩, functionId, [100, 0, 0, 0], [⟨⟨5⟩, .report, none⟩]⟩
    let key (n : UInt32) := SubscriptionKey.of (r n).request functionId
    let ours := [Act.subscribe ⟨0⟩ (r 2)]
    let theirs := [Act.subscribe ⟨0⟩ (r 3), .take ⟨(r 3).request, functionId⟩, .silence (key 3) 0]
    let after := [Act.turn (key 3) 0, .turn (key 2) 0, .pass 100] ++
      List.replicate 4 (Act.turn (key 2) 0) ++ [.turn (key 3) 0]
    let o₁ := exec k (start .empty 0) ([.connect false 0] ++ ours ++ theirs ++ after)
    let o₂ := exec k (start .empty 0) ([.connect false 0] ++ theirs ++ ours ++ after)
    view (key 2) o₁ = view (key 2) o₂ ∧ view (key 3) o₁ = view (key 3) o₂ ∧
      (view (key 2) o₁).entry.map Shown.stopped = some (some false) ∧
      (view (key 3) o₁).entry = none ∧ (view (key 3) o₁).replies.length = 2 ∧
      (view (key 2) o₁).sent.map List.length = [1] := by
  intro k r key ours theirs after o₁ o₂
  have hours : ∀ a ∈ ours, a.request? = some (key 2) := by simp [ours, Act.request?, key, r]
  have htheirs : ∀ a ∈ theirs, a.request? = some (key 3) := by
    simp [theirs, Act.request?, key, r]
  have hswap := (requests_independent k .empty 0).2.2 [.connect false 0] ours theirs after (key 2)
    (key 3) (by decide) hours htheirs
  exact ⟨hswap (key 2), hswap (key 3), by decide +kernel, by decide +kernel, by decide +kernel,
    by decide +kernel⟩

end E2Node.Kpm.Overlap
