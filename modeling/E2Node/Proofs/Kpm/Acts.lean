import E2Node.Proofs.Kpm.Overlap

namespace E2Node.Kpm.Overlap

def pick? {α : Type} (p : α → Bool) : Nat → List α → Option (α × List α)
  | _, [] => none
  | 0, x :: xs => if p x then some (x, xs) else (pick? p 0 xs).map fun r => (r.1, x :: r.2)
  | n + 1, x :: xs => (pick? p (if p x then n else n + 1) xs).map fun r => (r.1, x :: r.2)

inductive Act
  | subscribe (session : SessionId) (r : SubscriptionRequest)
  | take (r : SubscriptionDeleteRequest)
  | silence (key : SubscriptionKey) (n : Nat)
  | turn (key : SubscriptionKey) (n : Nat)
  | cut (key : SubscriptionKey) (n : Nat)
  | pass (millis : Nat)
  | populate (p : Population)
  | connect (failing : Bool) (sendDelay : Nat)
  | waver (session : SessionId) (failing : Bool) (sendDelay : Nat)
  | close (session : SessionId)

inductive Reply
  | subscription (o : Except RequestError SubscriptionOutcome)
  | deletion (o : Except RequestError DeleteOutcome)

def Act.request? : Act → Option SubscriptionKey
  | .subscribe _ r => some (.of r.request r.function)
  | .take r => some (.of r.request r.function)
  | .silence key _ => some key
  | _ => none

def isFor (key : SubscriptionKey) (a : Act) : Bool := a.request?.all (· = key)

def task? (key : SubscriptionKey) (n : Nat) (s : Reporting) : Option ReportTask :=
  (pick? (·.key = key) n s.tasks).map Prod.fst

def byTask (f : Reporting → ReportTask → Option Reporting) (key : SubscriptionKey) (n : Nat)
    (s : Reporting) : Reporting := ((task? key n s).bind (f s)).getD s

def perform (k : Service) (c : Overlap) : Act → Option (SubscriptionKey × Reply) × Overlap
  | .subscribe session r =>
      let o := k.subscription session r c.reporting
      (some (.of r.request r.function, .subscription o.1), { c with reporting := o.2 })
  | .take r =>
      match c.reporting.take (.of r.request r.function) with
      | .error e => (some (.of r.request r.function, .deletion (.error e.error)), c)
      | .ok (e, s) => (none, ⟨s, e :: c.deleting⟩)
  | .silence key n =>
      match pick? (·.key = key) n c.deleting with
      | some (e, deleting) =>
          (some (key, .deletion (.ok (.success key.deleteResponse))),
            ⟨c.reporting.silence e, deleting⟩)
      | none => (none, c)
  | .turn key n =>
      (none, { c with reporting := byTask (fun s t => s.step? k t) key n c.reporting })
  | .cut key n => (none, { c with reporting := byTask Reporting.cut? key n c.reporting })
  | .pass millis => (none, { c with reporting := c.reporting.atTime (c.reporting.now + millis) })
  | .populate p => (none, { c with reporting := { c.reporting with population := p } })
  | .connect failing delay =>
      (none, { c with
        reporting := { c.reporting with
          links := c.reporting.links ++ [.fresh failing delay] } })
  | .waver session failing delay =>
      (none, { c with
        reporting := c.reporting.modifyLink session
          fun l => { l with failing := failing, sendDelay := delay } })
  | .close session => (none, { c with reporting := c.reporting.modifyLink session Link.close })

def exec (k : Service) : Overlap → List Act → List (SubscriptionKey × Reply) × Overlap
  | c, [] => ([], c)
  | c, a :: acts =>
      ((perform k c a).1.toList ++ (exec k (perform k c a).2 acts).1,
        (exec k (perform k c a).2 acts).2)

section Pick

variable {α : Type} {p : α → Bool} {g : α → α} {l rest : List α} {x : α} {n : Nat}

theorem pick?_eq_some (h : pick? p n l = some (x, rest)) :
    p x = true ∧ ∃ before after, l = before ++ x :: after ∧ rest = before ++ after := by
  induction l generalizing n rest with
  | nil => cases n <;> cases h
  | cons y l ih =>
      have later {m : Nat} (h : (pick? p m l).map (fun r => (r.1, y :: r.2)) = some (x, rest)) :
          p x = true ∧ ∃ before after, y :: l = before ++ x :: after ∧ rest = before ++ after := by
        obtain ⟨⟨z, others⟩, hr, he⟩ := Option.map_eq_some_iff.1 h
        cases he
        obtain ⟨hp, before, after, rfl, rfl⟩ := ih hr
        exact ⟨hp, y :: before, after, rfl, rfl⟩
      cases n with
      | zero =>
          rw [pick?] at h
          split at h
          · cases h
            exact ⟨‹_›, [], l, rfl, rfl⟩
          · exact later h
      | succ n =>
          rw [pick?] at h
          exact later h

theorem exists_pick? (hp : p x = true) (before after : List α) :
    ∃ n, pick? p n (before ++ x :: after) = some (x, before ++ after) := by
  induction before with
  | nil => exact ⟨0, by rw [List.nil_append, pick?, if_pos hp, List.nil_append]⟩
  | cons y before ih =>
      obtain ⟨n, hn⟩ := ih
      by_cases hy : p y = true
      · exact ⟨n + 1, by rw [List.cons_append, pick?, if_pos hy, hn]; rfl⟩
      · cases n with
        | zero => exact ⟨0, by rw [List.cons_append, pick?, if_neg hy, hn]; rfl⟩
        | succ n => exact ⟨n + 1, by rw [List.cons_append, pick?, if_neg hy, hn]; rfl⟩

theorem pick?_eq_none (h : ∀ x ∈ l, p x = false) : pick? p n l = none := by
  induction l generalizing n with
  | nil => cases n <;> rfl
  | cons x l ih =>
      have hx := h x List.mem_cons_self
      have ih {n : Nat} : pick? p n l = none := ih fun y hy => h y (List.mem_cons_of_mem _ hy)
      cases n with
      | zero => simp [pick?, hx, ih]
      | succ n => simp [pick?, ih]

theorem pick?_filter_map (hg : ∀ x, p (g x) = p x) : pick? p n ((l.filter p).map g) =
    (pick? p n l).map fun r => (g r.1, (r.2.filter p).map g) := by
  induction l generalizing n with
  | nil => cases n <;> rfl
  | cons x l ih =>
      cases n with
      | zero => by_cases hx : p x <;> simp [pick?, hx, hg, ih, Function.comp_def]
      | succ n => by_cases hx : p x <;> simp [pick?, hx, hg, ih, Function.comp_def]

end Pick

variable {c c' : Overlap} {key : SubscriptionKey} {s s' : Reporting} {t : ReportTask} {n : Nat}

theorem mem_of_task? (h : task? key n s = some t) : t ∈ s.tasks ∧ t.key = key := by
  obtain ⟨⟨x, rest⟩, hp, rfl⟩ := Option.map_eq_some_iff.1 h
  obtain ⟨hk, before, after, hl, -⟩ := pick?_eq_some hp
  rw [hl]
  exact ⟨List.mem_append_right _ List.mem_cons_self, of_decide_eq_true hk⟩

theorem exists_task? (ht : t ∈ s.tasks) : ∃ n, task? t.key n s = some t := by
  obtain ⟨before, after, hl⟩ := List.append_of_mem ht
  obtain ⟨n, hn⟩ := exists_pick? (p := fun x : ReportTask => decide (x.key = t.key))
    (decide_eq_true rfl) before after
  exact ⟨n, by rw [task?, hl, hn]; rfl⟩

theorem byTask_course {f : Reporting → ReportTask → Option Reporting}
    (hf : ∀ t ∈ c.reporting.tasks, ∀ s, f c.reporting t = some s →
      ∃ e, Happens c e { c with reporting := s }) (key : SubscriptionKey) (n : Nat) :
    ∃ es, Course c es { c with reporting := byTask f key n c.reporting } := by
  rw [byTask]
  cases ht : task? key n c.reporting with
  | none => exact ⟨[], .refl⟩
  | some t =>
      cases hs : f c.reporting t with
      | none => exact ⟨[], by rw [Option.bind_some, hs]; exact .refl⟩
      | some s =>
          obtain ⟨e, he⟩ := hf t (mem_of_task? ht).1 s hs
          exact ⟨_, by rw [Option.bind_some, hs]; exact Course.refl.tail he⟩

/-- What acts do is a course of steps. -/
theorem perform_course (k : Service) (c : Overlap) (a : Act) :
    ∃ es, Course c es (perform k c a).2 := by
  cases a with
  | subscribe id r =>
      obtain ⟨o, hd⟩ := exists_decision k id r c.reporting
      rw [perform, hd.eq]
      cases hd with
      | malformed | unreportable | untimed | taken => exact ⟨[], .refl⟩
      | admitted hw ha ht hk =>
          have he : k.subscription id r c.reporting = _ := (Decision.admitted hw ha ht hk).eq
          have h := Happens.admits (c := c) k id r (by rw [he])
          rw [he] at h
          exact ⟨_, Course.refl.tail h⟩
  | take r =>
      rw [perform]
      cases hr : c.reporting.take (.of r.request r.function) with
      | error e => exact ⟨[], .refl⟩
      | ok o => exact ⟨_, Course.refl.tail (.removes hr)⟩
  | silence key n =>
      rw [perform]
      cases hp : pick? (·.key = key) n c.deleting with
      | none => exact ⟨[], .refl⟩
      | some o =>
          obtain ⟨e, rest⟩ := o
          obtain ⟨-, before, after, hd, rfl⟩ := pick?_eq_some hp
          exact ⟨_, Course.refl.tail (.stops hd)⟩
  | turn key n => exact byTask_course (fun t ht s hs => ⟨_, .task k ht hs⟩) key n
  | cut key n => exact byTask_course (fun t ht s hs => ⟨_, .breaks ht hs⟩) key n
  | pass millis => exact ⟨_, Course.refl.tail (.around _ _ _)⟩
  | populate p => exact ⟨_, Course.refl.tail (.around _ _ p)⟩
  | connect failing delay => exact ⟨_, Course.refl.tail (.around _ _ _)⟩
  | waver id failing delay => exact ⟨_, Course.refl.tail (.around _ _ _)⟩
  | close id => exact ⟨_, Course.refl.tail (.around _ _ _)⟩

theorem exec_course (k : Service) (acts : List Act) (c : Overlap) :
    ∃ es, Course c es (exec k c acts).2 := by
  induction acts generalizing c with
  | nil => exact ⟨[], .refl⟩
  | cons a acts ih =>
      obtain ⟨es, he⟩ := perform_course k c a
      obtain ⟨fs, hf⟩ := ih (perform k c a).2
      exact ⟨es ++ fs, he.trans hf⟩

theorem Happens.exists_act (k : Service) {e : Event} (hh : Happens c e c') :
    (∃ k a, c' = (perform k c a).2) ∨ ∃ now links p, c' =
      { c with reporting := { c.reporting with now := now, links := links, population := p } } := by
  cases hh with
  | @task k t s ht hs =>
      obtain ⟨n, hn⟩ := exists_task? ht
      exact .inl ⟨k, .turn t.key n, by rw [perform, byTask, hn, Option.bind_some, hs]; rfl⟩
  | @breaks t s ht hs =>
      obtain ⟨n, hn⟩ := exists_task? ht
      exact .inl ⟨k, .cut t.key n, by rw [perform, byTask, hn, Option.bind_some, hs]; rfl⟩
  | admits k id r hm => exact .inl ⟨k, .subscribe id r, rfl⟩
  | @removes key u s hr =>
      have hr : c.reporting.take (.of key.request key.function) = .ok (u, s) := hr
      exact .inl ⟨k, .take ⟨key.request, key.function⟩, by rw [perform, hr]⟩
  | @stops before u after hd =>
      obtain ⟨n, hn⟩ := exists_pick? (p := fun x : Subscription => decide (x.key = u.key))
        (decide_eq_true rfl) before after
      rw [← hd] at hn
      exact .inl ⟨k, .silence u.key n, by rw [perform, hn]⟩
  | around now links p => exact .inr ⟨now, links, p, rfl⟩

theorem run_acts (k : Service) (n : Nat) (c : Overlap) :
    ∃ acts, (∀ a ∈ acts, a.request? = none) ∧
      exec k c acts = ([], { c with reporting := c.reporting.run k n }) := by
  induction n generalizing c with
  | zero => exact ⟨[], List.forall_mem_nil _, rfl⟩
  | succ n ih =>
      rw [Reporting.run]
      cases hf : c.reporting.tasks.findSome? (c.reporting.step? k) with
      | none => exact ⟨[], List.forall_mem_nil _, rfl⟩
      | some s =>
          obtain ⟨t, ht, hs⟩ := List.exists_of_findSome?_eq_some hf
          obtain ⟨m, hm⟩ := exists_task? ht
          obtain ⟨acts, ha, he⟩ := ih { c with reporting := s }
          refine ⟨.turn t.key m :: acts, List.forall_mem_cons.2 ⟨rfl, ha⟩, ?_⟩
          have hp : perform k c (.turn t.key m) = (none, { c with reporting := s }) := by
            rw [perform, byTask, hm, Option.bind_some, hs]
            rfl
          rw [exec, hp, he]
          rfl

theorem delete_acts (k : Service) (r : SubscriptionDeleteRequest)
    (hk : ∀ u, c.stored? (.of r.request r.function) = some u → u.key = .of r.request r.function) :
    ∃ acts, (∀ a ∈ acts, a.request? = some (.of r.request r.function)) ∧
      exec k c acts =
        ([(.of r.request r.function, .deletion (Service.delete r c.reporting).1)],
          { c with reporting := (Service.delete r c.reporting).2 }) := by
  cases hr : c.reporting.take (.of r.request r.function) with
  | error e =>
      refine ⟨[.take r], by simp [Act.request?], ?_⟩
      simp only [exec, perform, Service.delete, hr]
      rfl
  | ok o =>
      obtain ⟨u, s⟩ := o
      refine ⟨[.take r, .silence (.of r.request r.function) 0], by simp [Act.request?], ?_⟩
      have hu : decide (u.key = .of r.request r.function) = true :=
        decide_eq_true (hk u (Reporting.take_eq_ok_iff.1 hr).1)
      simp only [exec, perform, Service.delete, hr, pick?, if_pos hu]
      rfl

/-- What can happen is told by acts, as are the runs of the tasks and the delete requests of the
service. -/
structure Told (k : Service) (c : Overlap) : Prop where
  happens : ∀ e c', Happens c e c' → (∃ k a, c' = (perform k c a).2) ∨ ∃ now links p, c' =
    { c with reporting := { c.reporting with now := now, links := links, population := p } }
  settle : ∃ acts, (∀ a ∈ acts, a.request? = none) ∧
    exec k c acts = ([], { c with reporting := c.reporting.settle k })
  delete : ∀ r : SubscriptionDeleteRequest,
    ∃ acts, (∀ a ∈ acts, a.request? = some (.of r.request r.function)) ∧
      exec k c acts =
        ([(.of r.request r.function, .deletion (Service.delete r c.reporting).1)],
          { c with reporting := (Service.delete r c.reporting).2 })

theorem told (k : Service) (h : ∀ key u, c.stored? key = some u → u.key = key) : Told k c where
  happens _ _ hh := hh.exists_act k
  settle := run_acts k _ c
  delete r := delete_acts k r (h _)

end E2Node.Kpm.Overlap
