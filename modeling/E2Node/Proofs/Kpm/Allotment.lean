import E2Node.Proofs.Kpm.Admission
import E2Node.Proofs.Kpm.Separation

namespace E2Node.Kpm.Reporting

variable {key key' : SubscriptionKey} {made : List TickerId} {i : TickerId} {s : Reporting}
  {k : Service} {n : SessionId}

def granted (key key' : SubscriptionKey) (made : List TickerId) (s : Reporting) : List TickerId :=
  if key' = key then made ++ [s.tickers.next] else made

theorem mem_granted_of_lt (hi : i.val < s.tickers.created) :
    i ∈ granted key key' made s ↔ i ∈ made := by
  have hne : i ≠ s.tickers.next := by
    rintro rfl
    exact absurd hi (Nat.lt_irrefl _)
  rw [granted]
  split
  · rw [List.mem_append, List.mem_singleton, or_iff_left hne]
  · rfl

theorem among_granted (hi : i ∈ made) : i.among (granted key key' made s) = i.among made := by
  rw [granted]
  split
  · exact among_append hi _
  · rfl

def enlist (s : Reporting) (e : Subscription) (period : Nat) : Reporting :=
  { s with
    subscriptions := ⟨s.subscriptions.entries.insert e.key { e with ticker := some s.tickers.next }⟩
    tickers := s.tickers.create
    tasks := s.tasks ++ [⟨e.key, e.session, period, s.tickers.next, .starting⟩] }

namespace Parted

theorem next_notMem (h : s.Parted key made) : s.tickers.next ∉ made :=
  fun hi => absurd (h.given _ hi) (Nat.lt_irrefl _)

theorem next_mem_granted (h : s.Parted key made) :
    s.tickers.next ∈ granted key key' made s ↔ key' = key := by
  rw [granted]
  split
  · simp [*]
  · simp [*, h.next_notMem]

theorem enlist (h : s.Parted key made) {e : Subscription} {period : Nat}
    (hn : (s.enlist e period).Numbered) :
    (s.enlist e period).Parted key (granted key e.key made s) where
  numbered := hn
  given i hi := by
    rw [granted] at hi
    split at hi
    · rcases List.mem_append.1 hi with hi | hi
      · exact Nat.lt_succ_of_lt (h.given i hi)
      · rw [List.mem_singleton.1 hi]
        exact Nat.lt_succ_self _
    · exact Nat.lt_succ_of_lt (h.given i hi)
  tasks t ht := by
    rcases List.mem_append.1 ht with ht | ht
    · rw [mem_granted_of_lt (h.numbered.tasks t ht)]
      exact h.tasks t ht
    · cases List.mem_singleton.1 ht
      exact h.next_mem_granted
  carried t ht x hx := by
    rcases List.mem_append.1 ht with ht | ht
    · exact h.carried t ht x hx
    · cases List.mem_singleton.1 ht
      cases hx
  keyed key' u hu := by
    simp only [Reporting.enlist, Table.get?_insert] at hu
    split at hu
    · cases hu
      exact Eq.symm ‹_›
    · exact h.keyed key' u hu
  entries key' u i hu hi := by
    simp only [Reporting.enlist, Table.get?_insert] at hu
    split at hu
    · cases hu
      cases hi
      rw [‹key' = _›]
      exact h.next_mem_granted
    · rw [mem_granted_of_lt (h.numbered.entries key' u i hu hi)]
      exact h.entries key' u i hu hi

theorem tasksOf_granted (h : s.Parted key made) :
    tasksOf key (granted key key' made s) s.tasks = tasksOf key made s.tasks := by
  refine List.map_congr_left fun x hx => ?_
  obtain ⟨hx, hk⟩ := List.mem_filter.1 hx
  rw [ReportTask.among, among_granted ((h.tasks x hx).2 (of_decide_eq_true hk)), ReportTask.among]

theorem create_only (h : s.Parted key made) :
    s.tickers.create.only (made ++ [s.tickers.next]) = (s.tickers.only made).create := by
  have hs : ∀ i ∈ s.tickers.stopped, decide (i ∈ made ++ [s.tickers.next]) = decide (i ∈ made) := by
    intro i hi
    have hm : i ∈ granted key key made s ↔ i ∈ made := mem_granted_of_lt (h.numbered.stopped i hi)
    rw [granted, if_pos rfl] at hm
    exact decide_eq_decide.2 hm
  rw [Tickers.only, Tickers.create, List.filter_congr hs, List.length_append]
  refine congrArg (Tickers.mk _) (List.map_congr_left fun i hi => ?_)
  exact among_append (of_decide_eq_true (List.mem_filter.1 hi).2) _

theorem enlist_only (h : s.Parted key made) {e : Subscription} (hk : e.key = key)
    (hf : s.subscriptions.entries.get? key = none) (period : Nat) :
    (s.enlist e period).only key (granted key e.key made s) = (s.only key made).enlist e period := by
  have hn : s.tickers.next.among (made ++ [s.tickers.next]) = (s.only key made).tickers.next :=
    among_self h.next_notMem
  have hg : granted key e.key made s = made ++ [s.tickers.next] := if_pos hk
  have hs : (s.enlist e period).subscriptions.only key (made ++ [s.tickers.next]) =
      ((s.only key made).enlist e period).subscriptions := by
    simp only [Reporting.enlist, only_subscriptions, only_eq_empty hf]
    rw [Subscriptions.only, Table.get?_insert, if_pos hk.symm, Option.map_some,
      Subscription.among, Option.map_some, hn, hk]
    rfl
  have ht : tasksOf key (made ++ [s.tickers.next]) (s.enlist e period).tasks =
      ((s.only key made).enlist e period).tasks := by
    have hold : tasksOf key (made ++ [s.tickers.next]) s.tasks = tasksOf key made s.tasks :=
      hg ▸ h.tasksOf_granted
    have hnew {x : ReportTask} (hx : x.key = key) :
        tasksOf key (made ++ [s.tickers.next]) [x] = [x.among (made ++ [s.tickers.next])] := by
      simp [tasksOf, hx]
    rw [Reporting.enlist, tasksOf_append, hold, hnew hk, ReportTask.among, hn]
    rfl
  rw [hg, only, hs, ht, Reporting.enlist, h.create_only]
  rfl

end Parted

theorem enlist_only_of_ne {e : Subscription} (hk : e.key ≠ key) (period : Nat) :
    (s.enlist e period).only key (granted key e.key made s) = s.only key made := by
  have hs : (s.enlist e period).subscriptions.only key made = s.subscriptions.only key made :=
    only_eq_of_get? ((Table.get?_insert ..).trans (if_neg hk.symm))
  have ht : tasksOf key made (s.enlist e period).tasks = tasksOf key made s.tasks := by
    simp [tasksOf, Reporting.enlist, hk]
  rw [granted, if_neg hk, only, hs, ht]
  rfl

def entryOf (n : SessionId) (r : SubscriptionRequest) : Subscription :=
  ⟨.of r.request r.function, reportIds r.actions, refusals r.actions, n, none⟩

theorem subscription_only (h : s.Parted key made) (r : SubscriptionRequest) :
    ∃ made', (made' = made ∨ made' = granted key (.of r.request r.function) made s) ∧
      (k.subscription n r s).2.Parted key made' ∧
      (.of r.request r.function = key → k.subscription n r (s.only key made) =
        ((k.subscription n r s).1, (k.subscription n r s).2.only key made')) ∧
      (.of r.request r.function ≠ key →
        (k.subscription n r s).2.only key made' = s.only key made) := by
  have hn := h.numbered.subscribe (k := k) n r
  obtain ⟨o, hd⟩ := exists_decision k n r s
  rw [hd.eq] at hn ⊢
  cases hd with
  | malformed hf =>
      exact ⟨made, .inl rfl, h, fun _ => (Decision.malformed hf).eq, fun _ => rfl⟩
  | unreportable hw ha =>
      exact ⟨made, .inl rfl, h, fun _ => (Decision.unreportable hw ha).eq, fun _ => rfl⟩
  | untimed hw ha ht =>
      exact ⟨made, .inl rfl, h, fun _ => (Decision.untimed hw ha ht).eq, fun _ => rfl⟩
  | @taken u e hw ha ht hg =>
      refine ⟨made, .inl rfl, h, fun hk => (Decision.taken (e := e.among made) hw ha ht ?_).eq,
        fun _ => rfl⟩
      rw [only_subscriptions, get?_only, if_pos hk, ← hk, hg]
      rfl
  | admitted hw ha ht hg =>
      refine ⟨_, .inr rfl, h.enlist (e := entryOf n r) hn, fun hk => ?_,
        fun hk => enlist_only_of_ne (e := entryOf n r) hk _⟩
      have hg' :
          (s.only key made).subscriptions.entries.get? (.of r.request r.function) = none := by
        rw [only_subscriptions, get?_only, if_pos hk, ← hk, hg]
        rfl
      refine (Decision.admitted hw ha ht hg').eq.trans (congrArg _ ?_)
      exact (h.enlist_only (e := entryOf n r) hk (hk ▸ hg) _).symm

end E2Node.Kpm.Reporting
