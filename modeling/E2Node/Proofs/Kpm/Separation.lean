import E2Node.Proofs.Kpm.Sequence
import Mathlib.Data.List.Basic

namespace E2Node

def TickerId.among (made : List TickerId) (i : TickerId) : TickerId := ⟨made.idxOf i⟩

def Tickers.only (made : List TickerId) (t : Tickers) : Tickers :=
  ⟨made.length, (t.stopped.filter (· ∈ made)).map (.among made)⟩

def Subscription.among (made : List TickerId) (e : Subscription) : Subscription :=
  { e with ticker := e.ticker.map (.among made) }

def Subscriptions.single (key : SubscriptionKey) : Option Subscription → Subscriptions
  | none => .empty
  | some e => ⟨Table.empty.insert key e⟩

def Subscriptions.only (key : SubscriptionKey) (made : List TickerId) (r : Subscriptions) :
    Subscriptions := .single key ((r.entries.get? key).map (.among made))

def Link.only (key : SubscriptionKey) (l : Link) : Link :=
  { l with sent := l.sent.filter (·.key = key) }

namespace Kpm

def Phase.indication? : Phase → Option Indication
  | .sending _ x | .inFlight _ x _ => some x
  | _ => none

def ReportTask.among (made : List TickerId) (t : ReportTask) : ReportTask :=
  { t with ticker := t.ticker.among made }

def tasksOf (key : SubscriptionKey) (made : List TickerId) (ts : List ReportTask) :
    List ReportTask :=
  (ts.filter (·.key = key)).map (.among made)

def Reporting.only (key : SubscriptionKey) (made : List TickerId) (s : Reporting) : Reporting where
  now := s.now
  epoch := s.epoch
  population := s.population
  subscriptions := s.subscriptions.only key made
  tickers := s.tickers.only made
  tasks := tasksOf key made s.tasks
  links := s.links.map (.only key)

variable {key key' : SubscriptionKey} {made : List TickerId} {i j : TickerId} {s s' : Reporting}
  {t x : ReportTask} {ts : List ReportTask} {k : Service} {p : Phase} {e : Subscription}
  {n : SessionId}

theorem among_inj (hi : i ∈ made) : i.among made = j.among made ↔ i = j := by
  rw [TickerId.among, TickerId.among, TickerId.mk.injEq, List.idxOf_inj hi]

theorem among_append (hi : i ∈ made) (j : TickerId) : i.among (made ++ [j]) = i.among made := by
  rw [TickerId.among, List.idxOf_append_of_mem hi]
  rfl

theorem among_self (hi : i ∉ made) : i.among (made ++ [i]) = ⟨made.length⟩ := by
  rw [TickerId.among, List.idxOf_append_of_notMem hi, List.idxOf_cons_self]
  rfl

theorem isStopped_only (hi : i ∈ made) (t : Tickers) :
    (t.only made).isStopped (i.among made) = t.isStopped i := by
  rw [Tickers.isStopped, Tickers.isStopped, decide_eq_decide, Tickers.only, List.mem_map]
  constructor
  · rintro ⟨j, hj, he⟩
    rw [(among_inj hi).1 he.symm]
    exact (List.mem_filter.1 hj).1
  · intro hs
    exact ⟨i, List.mem_filter.2 ⟨hs, decide_eq_true hi⟩, rfl⟩

theorem stop_only (hi : i ∈ made) (t : Tickers) :
    (t.stop i).only made = (t.only made).stop (i.among made) := by
  simp [Tickers.only, Tickers.stop, hi]

theorem stop_only_of_notMem (hi : i ∉ made) (t : Tickers) : (t.stop i).only made = t.only made := by
  simp [Tickers.only, Tickers.stop, hi]

theorem get?_only (r : Subscriptions) : (r.only key made).entries.get? key' =
    if key' = key then (r.entries.get? key).map (.among made) else none := by
  rw [Subscriptions.only]
  cases (r.entries.get? key).map (Subscription.among made) with
  | none => rw [Subscriptions.single, Subscriptions.get?_empty, ite_self]
  | some e =>
      rw [Subscriptions.single, Table.get?_insert]
      rfl

theorem erase_only (r : Subscriptions) :
    (⟨(r.only key made).entries.erase key⟩ : Subscriptions) = .empty := by
  rw [Subscriptions.only]
  cases (r.entries.get? key).map (Subscription.among made) with
  | none => rfl
  | some e =>
      have h : (Table.empty.insert key e).erase key = Table.empty := by
        simp [Table.insert, Table.erase, Table.empty]
      rw [Subscriptions.single, h]
      rfl

theorem only_eq_of_get? {r r' : Subscriptions} (h : r'.entries.get? key = r.entries.get? key) :
    r'.only key made = r.only key made := by
  rw [Subscriptions.only, h, Subscriptions.only]

theorem only_eq_empty {r : Subscriptions} (h : r.entries.get? key = none) :
    r.only key made = .empty := by
  rw [Subscriptions.only, h]
  rfl

theorem owns_only (hi : i ∈ made) (r : Subscriptions) :
    (r.only key made).owns key (i.among made) = r.owns key i := by
  rw [Subscriptions.owns, get?_only, if_pos rfl, Subscriptions.owns]
  cases r.entries.get? key with
  | none => rfl
  | some e =>
      cases hj : e.ticker with
      | none => simp [Subscription.among, hj]
      | some j => simp [Subscription.among, hj, eq_comm, among_inj hi]

theorem release_only (hi : i ∈ made) (r : Subscriptions) :
    (r.release key i).only key made = (r.only key made).release key (i.among made) := by
  rw [Subscriptions.release, Subscriptions.release, owns_only hi]
  split
  · rw [erase_only, only_eq_empty (by rw [Table.get?_erase, if_pos rfl])]
  · rfl

theorem release_only_of_ne (hk : key' ≠ key) (r : Subscriptions) :
    (r.release key' i).only key made = r.only key made :=
  only_eq_of_get? (by rw [Subscriptions.get?_release, if_neg fun h => hk h.1.symm])

theorem remove_only (r : Subscriptions) : (r.only key made).remove key =
    (r.remove key).map fun o => (o.1.among made, o.2.only key made) := by
  rw [Subscriptions.remove, get?_only, if_pos rfl, Subscriptions.remove]
  cases r.entries.get? key with
  | none => rfl
  | some e =>
      have h : (⟨r.entries.erase key⟩ : Subscriptions).only key made = .empty :=
        only_eq_empty (by rw [Table.get?_erase, if_pos rfl])
      simp only [Option.map_some, erase_only, Except.map, h]

@[simp]
theorem among_key (made : List TickerId) (t : ReportTask) : (t.among made).key = t.key := rfl

@[simp]
theorem among_session (made : List TickerId) (t : ReportTask) :
    (t.among made).session = t.session := rfl

@[simp]
theorem among_ticker (made : List TickerId) (t : ReportTask) :
    (t.among made).ticker = t.ticker.among made := rfl

@[simp]
theorem among_phase (made : List TickerId) (t : ReportTask) : (t.among made).phase = t.phase := rfl

theorem tasksOf_append (ts us : List ReportTask) :
    tasksOf key made (ts ++ us) = tasksOf key made ts ++ tasksOf key made us := by
  rw [tasksOf, List.filter_append, List.map_append]
  rfl

theorem tasksOf_map (f g : ReportTask → ReportTask) (hk : ∀ x, (f x).key = x.key)
    (h : ∀ x ∈ ts, x.key = key → (f x).among made = g (x.among made)) :
    tasksOf key made (ts.map f) = (tasksOf key made ts).map g := by
  rw [tasksOf, tasksOf, List.filter_map, List.map_map, List.map_map]
  have hf : (fun x : ReportTask => decide (x.key = key)) ∘ f = fun x => decide (x.key = key) := by
    funext x
    rw [Function.comp, hk]
  rw [hf]
  refine List.map_congr_left fun x hx => ?_
  obtain ⟨hx, hd⟩ := List.mem_filter.1 hx
  exact h x hx (of_decide_eq_true hd)

theorem tasksOf_filter (f g : ReportTask → Bool)
    (h : ∀ x ∈ ts, x.key = key → f x = g (x.among made)) :
    tasksOf key made (ts.filter f) = (tasksOf key made ts).filter g := by
  rw [tasksOf, tasksOf, List.filter_map, List.filter_filter, List.filter_filter]
  refine congrArg (List.map _) (List.filter_congr fun x hx => ?_)
  by_cases hk : x.key = key
  · simp [hk, h x hx hk]
  · simp [hk]

namespace Reporting

@[simp]
theorem only_subscriptions :
    (s.only key made).subscriptions = s.subscriptions.only key made := rfl

@[simp]
theorem only_tickers : (s.only key made).tickers = s.tickers.only made := rfl

theorem wallClock_only : (s.only key made).wallClock = s.wallClock := rfl

theorem link?_only : (s.only key made).link? n = (s.link? n).map (.only key) := List.getElem?_map ..

theorem isClosed_only : (s.only key made).isClosed n = s.isClosed n := by
  rw [isClosed, link?_only, isClosed]
  cases s.link? n <;> rfl

theorem refusal?_only : (s.only key made).refusal? n = s.refusal? n := by
  rw [refusal?, link?_only, refusal?]
  cases s.link? n <;> rfl

theorem sendDelay_only : (s.only key made).sendDelay n = s.sendDelay n := by
  rw [sendDelay, link?_only, sendDelay]
  cases s.link? n <;> rfl

theorem setPhase_only (hi : i ∈ made) :
    (s.setPhase i p).only key made = (s.only key made).setPhase (i.among made) p := by
  have h : tasksOf key made (s.setPhase i p).tasks =
      ((s.only key made).setPhase (i.among made) p).tasks := by
    refine tasksOf_map _ _ (fun x => by split <;> rfl) fun x _ _ => ?_
    have hj : (x.among made).ticker = i.among made ↔ x.ticker = i := by
      rw [eq_comm, eq_comm (a := x.ticker)]
      exact among_inj hi
    by_cases hx : x.ticker = i
    · rw [if_pos hx, if_pos (hj.2 hx)]
      rfl
    · rw [if_neg hx, if_neg (mt hj.1 hx)]
  rw [only, h]
  rfl

theorem endTask_only (hi : i ∈ made) :
    (s.endTask i).only key made = (s.only key made).endTask (i.among made) := by
  have h : tasksOf key made (s.endTask i).tasks =
      ((s.only key made).endTask (i.among made)).tasks := by
    refine tasksOf_filter _ _ fun x _ _ => ?_
    rw [decide_eq_decide, ne_eq, ne_eq, eq_comm, eq_comm (b := i.among made)]
    exact not_congr (among_inj hi).symm
  rw [only, h]
  rfl

def Apart (key : SubscriptionKey) (i : TickerId) (s : Reporting) : Prop :=
  ∀ x ∈ s.tasks, x.key = key → x.ticker ≠ i

theorem setPhase_only_of_apart (h : s.Apart key i) :
    (s.setPhase i p).only key made = s.only key made := by
  have ht : tasksOf key made (s.setPhase i p).tasks = (tasksOf key made s.tasks).map fun x => x :=
    tasksOf_map _ _ (fun x => by split <;> rfl) fun x hx hk => by
      rw [if_neg (h x hx hk)]
  rw [only, ht, List.map_id']
  rfl

theorem endTask_only_of_apart (h : s.Apart key i) :
    (s.endTask i).only key made = s.only key made := by
  have ht : tasksOf key made (s.endTask i).tasks =
      (tasksOf key made s.tasks).filter fun _ => true :=
    tasksOf_filter _ _ fun x hx hk => decide_eq_true (h x hx hk)
  rw [only, ht, List.filter_true]
  rfl

theorem record_only (now : Nat) {x : Indication} (hx : (Sent.mk now x).key = key) (l : Link) :
    (l.record now x).only key = (l.only key).record now x := by
  simp [Link.only, Link.record, hx]

theorem record_only_of_ne (now : Nat) {x : Indication} (hx : (Sent.mk now x).key ≠ key)
    (l : Link) : (l.record now x).only key = l.only key := by
  simp [Link.only, Link.record, hx]

theorem modifyLink_only {f g : Link → Link} (h : ∀ l, (f l).only key = g (l.only key)) :
    (s.modifyLink n f).only key made = (s.only key made).modifyLink n g := by
  have hl : (s.links.modify n.val f).map (.only key) =
      (s.links.map (.only key)).modify n.val g := by
    refine List.ext_getElem? fun m => ?_
    rw [List.getElem?_map, List.getElem?_modify, List.getElem?_modify, List.getElem?_map]
    cases s.links[m]? with
    | none => rfl
    | some l =>
        refine congrArg some ?_
        dsimp only
        split
        · exact h l
        · rfl
  rw [only, modifyLink, hl]
  rfl

theorem modifyLink_only_of_eq {f : Link → Link} (h : ∀ l, (f l).only key = l.only key) :
    (s.modifyLink n f).only key made = s.only key made := by
  rw [modifyLink_only (g := id) h, modifyLink, List.modify_id]

theorem found_only {r : Rhythm} (hk : t.key = key) :
    ((s.only key made).subscriptions.entries.get? t.key).bind
      ((s.only key made).reportFor k (t.among made) r) =
        (s.subscriptions.entries.get? t.key).bind (s.reportFor k t r) := by
  have hg : (s.only key made).subscriptions.entries.get? t.key =
      (s.subscriptions.entries.get? t.key).map (.among made) := by
    rw [hk]
    exact (get?_only s.subscriptions).trans (if_pos rfl)
  rw [hg]
  cases s.subscriptions.entries.get? t.key <;> rfl

/-- The tickers of a key were made for it, and no other has them. -/
structure Parted (key : SubscriptionKey) (made : List TickerId) (s : Reporting) : Prop where
  numbered : s.Numbered
  given : ∀ i ∈ made, i.val < s.tickers.created
  tasks : ∀ t ∈ s.tasks, t.ticker ∈ made ↔ t.key = key
  carried : ∀ t ∈ s.tasks, ∀ x, t.phase.indication? = some x →
    (SubscriptionKey.of x.request x.function = key ↔ t.key = key)
  keyed : ∀ key' e, s.subscriptions.entries.get? key' = some e → e.key = key'
  entries : ∀ key' e i, s.subscriptions.entries.get? key' = some e → e.ticker = some i →
    (i ∈ made ↔ key' = key)

def Descends (key : SubscriptionKey) (made : List TickerId) (s : Reporting) (x : ReportTask) :
    Prop :=
  ∃ y ∈ s.tasks, x.key = y.key ∧ x.ticker = y.ticker ∧ ∀ z, x.phase.indication? = some z →
    (SubscriptionKey.of z.request z.function = key ↔ y.ticker ∈ made)

namespace Parted

theorem apart (h : s.Parted key made) (hi : i ∉ made) : s.Apart key i := by
  rintro x hx hk rfl
  exact hi ((h.tasks x hx).2 hk)

theorem keep (h : s.Parted key made) (hn : s'.Numbered)
    (hc : s'.tickers.created = s.tickers.created)
    (ht : ∀ x ∈ s'.tasks, Descends key made s x)
    (he : ∀ key' e, s'.subscriptions.entries.get? key' = some e →
      s.subscriptions.entries.get? key' = some e) : s'.Parted key made where
  numbered := hn
  given i hi := by
    rw [hc]
    exact h.given i hi
  tasks x hx := by
    obtain ⟨y, hy, hk, hi, -⟩ := ht x hx
    rw [hk, hi]
    exact h.tasks y hy
  carried x hx z hz := by
    obtain ⟨y, hy, hk, -, hi⟩ := ht x hx
    rw [hi z hz, hk]
    exact h.tasks y hy
  keyed key' e hg := h.keyed key' e (he key' e hg)
  entries key' e i hg := h.entries key' e i (he key' e hg)

theorem old (h : s.Parted key made) (hx : x ∈ s.tasks) : Descends key made s x :=
  ⟨x, hx, rfl, rfl, fun z hz => (h.carried x hx z hz).trans (h.tasks x hx).symm⟩

theorem of_setPhase (h : s.Parted key made) (hu : s'.tasks = s.tasks)
    (hp : ∀ z, p.indication? = some z →
      (SubscriptionKey.of z.request z.function = key ↔ i ∈ made))
    (hx : x ∈ (s'.setPhase i p).tasks) : Descends key made s x := by
  rcases mem_setPhase.1 hx with ⟨hx, -⟩ | ⟨y, hy, rfl, rfl⟩
  · exact h.old (hu ▸ hx)
  · exact ⟨y, hu ▸ hy, rfl, rfl, hp⟩

theorem taskStep (h : s.Parted key made) (ht : t ∈ s.tasks) (hs : TaskStep k s t s') :
    s'.Parted key made := by
  refine h.keep (h.numbered.taskStep ht hs) hs.created_eq (fun x hx => ?_)
    fun _ _ => hs.get?_of_some
  have idle {u : Reporting} {p : Phase} (hu : u.tasks = s.tasks) (hp : p.indication? = none)
      (hx : x ∈ (u.setPhase t.ticker p).tasks) :=
    h.of_setPhase hu (fun z hz => by cases hp.symm.trans hz) hx
  cases hs with
  | refused | began | lost | ticked | unbuilt | unsent | broke => exact idle rfl rfl hx
  | arrived => exact idle (u := s.modifyLink t.session _) rfl rfl hx
  | silenced => exact idle (u := { s with tickers := s.tickers.stop t.ticker }) rfl rfl hx
  | aborted | stopped | gone => exact h.old (mem_endTask.1 hx).1
  | released => exact h.old (mem_endTask.1 hx).1
  | built hp hb =>
      refine h.of_setPhase rfl (fun z hz => ?_) hx
      cases hz
      obtain ⟨e, -, hr⟩ := Option.bind_eq_some_iff.1 hb
      obtain ⟨action, message, -, -, rfl⟩ := reportFor_eq_ok hr
      exact (h.tasks t ht).symm
  | sent hp hr =>
      refine h.of_setPhase rfl (fun z hz => ?_) hx
      cases hz
      exact (h.carried t ht _ (by rw [hp]; rfl)).trans (h.tasks t ht).symm

end Parted

theorem TaskStep.only_eq (hs : TaskStep k s t s') (h : s.Parted key made) (ht : t ∈ s.tasks)
    (hk : t.key ≠ key) : s'.only key made = s.only key made := by
  have hi : t.ticker ∉ made := mt (h.tasks t ht).1 hk
  have ha := h.apart hi
  cases hs with
  | refused | began | lost | ticked | unbuilt | built | unsent | sent | broke =>
      exact setPhase_only_of_apart ha
  | aborted | stopped | gone => exact endTask_only_of_apart ha
  | @arrived r x done hp hd =>
      have hx : (Sent.mk s.now x).key ≠ key :=
        mt (h.carried t ht x (by rw [hp]; rfl)).1 hk
      refine (setPhase_only_of_apart (s := s.modifyLink t.session _) ha).trans ?_
      exact modifyLink_only_of_eq (record_only_of_ne s.now hx)
  | silenced =>
      rw [setPhase_only_of_apart (s := { s with tickers := s.tickers.stop t.ticker }) ha, only,
        stop_only_of_notMem hi]
      rfl
  | released =>
      rw [endTask_only_of_apart
        (s := { s with subscriptions := s.subscriptions.release t.key t.ticker }) ha, only,
        release_only_of_ne hk]
      rfl

theorem step?_only (h : s.Parted key made) (ht : t ∈ s.tasks) (hk : t.key = key) :
    (s.only key made).step? k (t.among made) = (s.step? k t).map (.only key made) := by
  have hm : t.ticker ∈ made := (h.tasks t ht).2 hk
  have set {u : Reporting} {p : Phase} :
      some ((u.only key made).setPhase (t.ticker.among made) p) =
        (some (u.setPhase t.ticker p)).map (only key made) := congrArg some (setPhase_only hm).symm
  have leave {u : Reporting} : some ((u.only key made).endTask (t.ticker.among made)) =
      (some (u.endTask t.ticker)).map (only key made) := congrArg some (endTask_only hm).symm
  cases hp : t.phase with
  | starting =>
      simp only [step?, among_phase, among_ticker, hp, wallClock_only]
      cases k.codec.header (k.header s.wallClock) with
      | error e => exact set
      | ok b =>
          by_cases h0 : t.period = 0
          · simp only [if_pos h0, if_pos (show (t.among made).period = 0 from h0)]
            exact leave
          · simp only [if_neg h0, if_neg (show ¬(t.among made).period = 0 from h0)]
            exact set
  | waiting r =>
      simp only [step?, among_phase, among_ticker, among_session, hp, only_tickers,
        isStopped_only hm, isClosed_only]
      split
      · exact leave
      split
      · exact set
      by_cases hd : r.due ≤ s.now
      · rw [if_pos hd, if_pos (show r.due ≤ (s.only key made).now from hd)]
        exact set
      · rw [if_neg hd, if_neg (show ¬r.due ≤ (s.only key made).now from hd)]
        rfl
  | looking r =>
      simp only [step?, among_phase, among_key, among_ticker, hp, found_only hk]
      cases (s.subscriptions.entries.get? t.key).bind (s.reportFor k t r) with
      | none => exact leave
      | some o => cases o <;> exact set
  | sending r x =>
      simp only [step?, among_phase, among_ticker, among_session, hp, refusal?_only, sendDelay_only]
      split
      · exact set
      · exact set
  | inFlight r x done =>
      have hx : (Sent.mk s.now x).key = key := (h.carried t ht x (by rw [hp]; rfl)).2 hk
      have hl : (s.modifyLink t.session fun l => l.record s.now x).only key made =
          (s.only key made).modifyLink t.session fun l => l.record (s.only key made).now x :=
        modifyLink_only (record_only s.now hx)
      simp only [step?, among_phase, among_ticker, among_session, hp]
      by_cases hd : done ≤ s.now
      · rw [if_pos hd, if_pos (show done ≤ (s.only key made).now from hd), ← hl]
        exact set
      · rw [if_neg hd, if_neg (show ¬done ≤ (s.only key made).now from hd)]
        rfl
  | failing =>
      simp only [step?, among_phase, among_ticker, hp, only_tickers, ← stop_only hm]
      exact set (u := { s with tickers := s.tickers.stop t.ticker })
  | releasing =>
      simp only [step?, among_phase, among_ticker, among_key, hp, hk, only_subscriptions,
        ← release_only hm]
      exact leave (u := { s with subscriptions := s.subscriptions.release key t.ticker })

end Reporting

end Kpm

end E2Node
