import E2Node.Proofs.Kpm.Moves
import E2Node.Proofs.Subscription.Request
import Mathlib.Data.List.Sort

namespace E2Node

namespace Refusals

variable {id : ActionId} {c : Cause} {l : List (ActionId × Cause)} {x : ActionId × Cause}

def Ascending (l : List (ActionId × Cause)) : Prop := l.Pairwise fun a b => a.1.val < b.1.val

theorem mem_insertList (h : Ascending l) :
    x ∈ insertList id c l ↔ x = (id, c) ∨ x ∈ l ∧ x.1 ≠ id := by
  induction l with
  | nil => simp [insertList]
  | cons y ys ih =>
      obtain ⟨i, d⟩ := y
      obtain ⟨hy, hys⟩ := List.pairwise_cons.1 h
      rw [insertList]
      by_cases hlt : id.val < i.val
      · rw [if_pos hlt, List.mem_cons]
        refine or_congr_right (iff_self_and.2 fun hx he => ?_)
        rcases List.mem_cons.1 hx with rfl | hx
        · exact UInt8.lt_irrefl _ (he ▸ hlt)
        · exact UInt8.lt_irrefl _ (UInt8.lt_trans hlt (he ▸ hy x hx))
      · rw [if_neg hlt]
        by_cases he : id = i
        · subst he
          rw [if_pos rfl, List.mem_cons, List.mem_cons]
          refine or_congr_right ⟨fun hx => ⟨.inr hx, fun he => ?_⟩, ?_⟩
          · exact UInt8.lt_irrefl _ (he ▸ hy x hx)
          · rintro ⟨rfl | hx, hne⟩
            · exact absurd rfl hne
            · exact hx
        · rw [if_neg he, List.mem_cons, ih hys, List.mem_cons]
          constructor
          · rintro (rfl | rfl | ⟨hx, hne⟩)
            · exact .inr ⟨.inl rfl, fun h => he h.symm⟩
            · exact .inl rfl
            · exact .inr ⟨.inr hx, hne⟩
          · rintro (rfl | ⟨rfl | hx, hne⟩)
            · exact .inr (.inl rfl)
            · exact .inl rfl
            · exact .inr (.inr ⟨hx, hne⟩)

theorem ascending_insertList (h : Ascending l) : Ascending (insertList id c l) := by
  induction l with
  | nil => exact List.pairwise_singleton _ _
  | cons y ys ih =>
      obtain ⟨i, d⟩ := y
      obtain ⟨hy, hys⟩ := List.pairwise_cons.1 h
      rw [insertList]
      by_cases hlt : id.val < i.val
      · rw [if_pos hlt]
        refine List.pairwise_cons.2 ⟨fun x hx => ?_, h⟩
        rcases List.mem_cons.1 hx with rfl | hx
        · exact hlt
        · exact UInt8.lt_trans hlt (hy x hx)
      · rw [if_neg hlt]
        by_cases he : id = i
        · subst he
          rw [if_pos rfl]
          exact List.pairwise_cons.2 ⟨hy, hys⟩
        · rw [if_neg he]
          refine List.pairwise_cons.2 ⟨fun x hx => ?_, ih hys⟩
          rcases (mem_insertList hys).1 hx with rfl | ⟨hx, -⟩
          · have hne : i.val ≠ id.val := fun hv => he (by cases id; cases i; cases hv; rfl)
            exact UInt8.lt_of_le_of_ne (UInt8.not_lt.1 hlt) hne
          · exact hy x hx

theorem Ascending.ext {l' : List (ActionId × Cause)} (h : Ascending l) (h' : Ascending l')
    (hm : ∀ x, x ∈ l ↔ x ∈ l') : l = l' := by
  have irrefl : Std.Irrefl fun a b : ActionId × Cause => a.1.val < b.1.val :=
    ⟨fun _ => UInt8.lt_irrefl _⟩
  have antisymm : Std.Antisymm fun a b : ActionId × Cause => a.1.val < b.1.val :=
    ⟨fun _ _ hab hba => absurd (UInt8.lt_trans hab hba) (UInt8.lt_irrefl _)⟩
  exact List.Pairwise.eq_of_mem_iff h h' hm

end Refusals

namespace Kpm

def reportIds (xs : List RequestedAction) : List ActionId :=
  (xs.filter fun x => x.type = .report).map RequestedAction.id

def otherIds (xs : List RequestedAction) : List ActionId :=
  ((xs.filter fun x => x.type ≠ .report).map RequestedAction.id).mergeSort fun a b => a.val ≤ b.val

def refusals (xs : List RequestedAction) : Refusals :=
  (otherIds xs).map fun id => (id, .request .actionNotSupported)

variable {a : Admission} {x : RequestedAction} {xs : List RequestedAction} {id : ActionId}

theorem weigh_of_eq (h : x.type = .report) : weigh a x = a.accept x.id := by
  rw [weigh, h]

theorem weigh_of_ne (h : x.type ≠ .report) :
    weigh a x = a.refuse x.id (.request .actionNotSupported) := by
  rw [weigh]
  cases ht : x.type with
  | report => exact absurd ht h
  | insert | policy => rfl

theorem reportIds_cons_of_eq (h : x.type = .report) :
    reportIds (x :: xs) = x.id :: reportIds xs := by
  simp [reportIds, h]

theorem reportIds_cons_of_ne (h : x.type ≠ .report) : reportIds (x :: xs) = reportIds xs := by
  simp [reportIds, h]

theorem mem_otherIds : id ∈ otherIds xs ↔ ∃ x ∈ xs, x.type ≠ .report ∧ x.id = id := by
  simp [otherIds, and_assoc]

theorem mem_otherIds_cons_of_eq (h : x.type = .report) :
    id ∈ otherIds (x :: xs) ↔ id ∈ otherIds xs := by
  simp [mem_otherIds, h]

theorem mem_otherIds_cons_of_ne (h : x.type ≠ .report) :
    id ∈ otherIds (x :: xs) ↔ x.id = id ∨ id ∈ otherIds xs := by
  simp [mem_otherIds, h]

theorem otherIds_pairwise (xs : List RequestedAction) :
    (otherIds xs).Pairwise fun a b => a.val ≤ b.val := by
  have h : (otherIds xs).Pairwise fun a b => decide (a.val ≤ b.val) = true := by
    refine List.pairwise_mergeSort (fun a b c hab hbc => ?_) (fun a b => ?_) _
    · simp only [decide_eq_true_iff] at hab hbc ⊢
      exact UInt8.le_trans hab hbc
    · simpa using UInt8.le_total a.val b.val
  exact h.imp of_decide_eq_true

theorem reportIds_append_otherIds (xs : List RequestedAction) :
    (reportIds xs ++ otherIds xs).Perm (xs.map RequestedAction.id) := by
  have h := (List.filter_append_perm (fun x => decide (x.type = .report)) xs).map RequestedAction.id
  rw [List.map_append] at h
  refine .trans (.append_left _ (List.mergeSort_perm _ _)) (.trans (.of_eq ?_) h)
  simp [reportIds]

theorem refusals_ascending (h : (xs.map RequestedAction.id).Nodup) :
    Refusals.Ascending (refusals xs) := by
  have hn : (otherIds xs).Nodup :=
    (List.nodup_append.1 ((reportIds_append_otherIds xs).nodup_iff.2 h)).2.1
  refine List.pairwise_map.2 ((otherIds_pairwise xs).imp₂ (fun i j hle hne => ?_) hn)
  exact UInt8.lt_of_le_of_ne hle fun hv => hne (by cases i; cases j; cases hv; rfl)

theorem foldl_weigh_key : (xs.foldl weigh a).key = a.key := by
  induction xs generalizing a with
  | nil => rfl
  | cons x xs ih =>
      rw [List.foldl_cons, ih, weigh]
      split <;> rfl

theorem foldl_weigh_accepted : (xs.foldl weigh a).accepted = a.accepted ++ reportIds xs := by
  induction xs generalizing a with
  | nil => exact (List.append_nil _).symm
  | cons x xs ih =>
      rw [List.foldl_cons, ih]
      by_cases h : x.type = .report
      · rw [weigh_of_eq h, reportIds_cons_of_eq h, Admission.accept, List.append_assoc]
        rfl
      · rw [weigh_of_ne h, reportIds_cons_of_ne h, Admission.refuse]

theorem foldl_weigh_refused (h : Refusals.Ascending a.refused) :
    Refusals.Ascending (xs.foldl weigh a).refused ∧ ∀ y : ActionId × Cause,
      (y ∈ (xs.foldl weigh a).refused.toList ↔
        (y.2 = .request .actionNotSupported ∧ y.1 ∈ otherIds xs) ∨
          y ∈ a.refused.toList ∧ y.1 ∉ otherIds xs) := by
  induction xs generalizing a with
  | nil => simp [mem_otherIds, h]
  | cons x xs ih =>
      rw [List.foldl_cons]
      by_cases hx : x.type = .report
      · rw [weigh_of_eq hx]
        simp only [mem_otherIds_cons_of_eq hx]
        exact ih h
      · rw [weigh_of_ne hx]
        obtain ⟨ha, hm⟩ := ih (a := a.refuse x.id (.request .actionNotSupported))
          (Refusals.ascending_insertList h)
        refine ⟨ha, fun y => ?_⟩
        have hi : y ∈ (a.refuse x.id (.request .actionNotSupported)).refused.toList ↔
            y = (x.id, .request .actionNotSupported) ∨ y ∈ a.refused.toList ∧ y.1 ≠ x.id :=
          Refusals.mem_insertList h
        rw [hm, hi, mem_otherIds_cons_of_ne hx, Prod.ext_iff, eq_comm (a := x.id)]
        tauto

theorem admission_eq {r : SubscriptionRequest} (h : r.WellFormed) :
    admission r = ⟨.of r.request r.function, reportIds r.actions, refusals r.actions⟩ := by
  have hk : (admission r).key = .of r.request r.function := foldl_weigh_key
  have ha : (admission r).accepted = reportIds r.actions := foldl_weigh_accepted
  have hr : (admission r).refused = refusals r.actions := by
    have hn : Refusals.Ascending (Admission.start (.of r.request r.function)).refused := .nil
    show (r.actions.foldl weigh (.start (.of r.request r.function))).refused = refusals r.actions
    obtain ⟨hs, hm⟩ := foldl_weigh_refused hn
    refine Refusals.Ascending.ext hs (refusals_ascending h.distinct) fun y => (hm y).trans ?_
    simp only [Admission.start, Refusals.none, Refusals.toList, List.not_mem_nil, false_and,
      or_false, refusals, List.mem_map]
    constructor
    · rintro ⟨hc, hy⟩
      exact ⟨y.1, hy, by rw [← hc]⟩
    · rintro ⟨i, hi, rfl⟩
      exact ⟨rfl, hi⟩
  rw [← hk, ← ha, ← hr]

/-- What a request deserves, with what is left of the node's reporting. Of the five rules the first
that applies counts. -/
inductive Decision (k : Service) (session : SessionId) (r : SubscriptionRequest) (s : Reporting) :
    Except RequestError SubscriptionOutcome × Reporting → Prop
  | malformed {f} (hf : r.Breaks f) : Decision k session r s (.error (.invalid f.message), s)
  | unreportable (hw : r.WellFormed) (ha : reportIds r.actions = []) :
      Decision k session r s
        (.ok (.failure ⟨r.request, r.function, .request .actionNotSupported⟩), s)
  | untimed {e} (hw : r.WellFormed) (ha : reportIds r.actions ≠ [])
      (ht : k.codec.readTrigger r.eventTrigger = .error e) :
      Decision k session r s (.ok (.failure ⟨r.request, r.function, .request .unspecified⟩), s)
  | taken {t e} (hw : r.WellFormed) (ha : reportIds r.actions ≠ [])
      (ht : k.codec.readTrigger r.eventTrigger = .ok t)
      (hk : s.subscriptions.entries.get? (.of r.request r.function) = some e) :
      Decision k session r s (.ok (.failure ⟨r.request, r.function, .request .unspecified⟩), s)
  | admitted {t} (hw : r.WellFormed) (ha : reportIds r.actions ≠ [])
      (ht : k.codec.readTrigger r.eventTrigger = .ok t)
      (hk : s.subscriptions.entries.get? (.of r.request r.function) = none) :
      Decision k session r s
        (.ok (.success ⟨r.request, r.function, reportIds r.actions, refusals r.actions⟩),
          { s with
            subscriptions := ⟨s.subscriptions.entries.insert (.of r.request r.function)
              ⟨.of r.request r.function, reportIds r.actions, refusals r.actions, session,
                some s.tickers.next⟩⟩
            tickers := s.tickers.create
            tasks := s.tasks ++ [⟨.of r.request r.function, session, t.periodMillis.toNat,
              s.tickers.next, .starting⟩] })

variable {k : Service} {session : SessionId} {r : SubscriptionRequest} {s s' : Reporting}

theorem subscription_of_breaks {f : RequestFault} (hf : r.Breaks f) :
    k.subscription session r s = (.error (.invalid f.message), s) := by
  rw [Service.subscription, SubscriptionRequest.fault?_eq_some_iff.2 hf]
  rfl

theorem subscription_of_wellFormed (hw : r.WellFormed) : k.subscription session r s =
    if reportIds r.actions = [] then
      (.ok (.failure ⟨r.request, r.function, .request .actionNotSupported⟩), s)
    else match k.codec.readTrigger r.eventTrigger with
      | .error _ => (.ok (.failure ⟨r.request, r.function, .request .unspecified⟩), s)
      | .ok t =>
          match s.enrol ⟨.of r.request r.function, reportIds r.actions, refusals r.actions⟩ session
            t.periodMillis.toNat with
          | .ok s' => (.ok (.success ⟨r.request, r.function, reportIds r.actions,
              refusals r.actions⟩), s')
          | .error (.alreadyExists _) =>
              (.ok (.failure ⟨r.request, r.function, .request .unspecified⟩), s)
          | .error e => (.error e.error, s) := by
  rw [Service.subscription, SubscriptionRequest.fault?_eq_none_iff.2 hw]
  simp only [admission_eq hw, Admission.anyAccepted]
  cases reportIds r.actions <;> rfl

theorem enrol_of_none {key : SubscriptionKey} {accepted : List ActionId} {refused : Refusals}
    {period : Nat} (hk : s.subscriptions.entries.get? key = none) :
    s.enrol ⟨key, accepted, refused⟩ session period = .ok { s with
      subscriptions := ⟨s.subscriptions.entries.insert key
        ⟨key, accepted, refused, session, some s.tickers.next⟩⟩
      tickers := s.tickers.create
      tasks := s.tasks ++ [⟨key, session, period, s.tickers.next, .starting⟩] } := by
  have h : s.subscriptions.add ⟨key, accepted, refused, session, some s.tickers.next⟩ = .ok _ :=
    Subscriptions.add_eq_ok_iff.2 ⟨hk, rfl⟩
  rw [Reporting.enrol, h]

theorem enrol_of_some {key : SubscriptionKey} {accepted : List ActionId} {refused : Refusals}
    {period : Nat} {e : Subscription} (hk : s.subscriptions.entries.get? key = some e) :
    s.enrol ⟨key, accepted, refused⟩ session period =
      .error (.alreadyExists (.subscription key)) := by
  simp [Reporting.enrol, Subscriptions.add, Table.contains, hk]

theorem Decision.eq {o : Except RequestError SubscriptionOutcome × Reporting}
    (h : Decision k session r s o) : k.subscription session r s = o := by
  cases h with
  | malformed hf => exact subscription_of_breaks hf
  | unreportable hw ha => rw [subscription_of_wellFormed hw, if_pos ha]
  | untimed hw ha ht => simp only [subscription_of_wellFormed hw, if_neg ha, ht]
  | taken hw ha ht hk => simp only [subscription_of_wellFormed hw, if_neg ha, ht, enrol_of_some hk]
  | admitted hw ha ht hk =>
      simp only [subscription_of_wellFormed hw, if_neg ha, ht, enrol_of_none hk]

theorem exists_decision (k : Service) (session : SessionId) (r : SubscriptionRequest)
    (s : Reporting) : ∃ o, Decision k session r s o := by
  cases hf : r.fault? with
  | some f => exact ⟨_, .malformed (SubscriptionRequest.fault?_eq_some_iff.1 hf)⟩
  | none =>
      have hw := SubscriptionRequest.fault?_eq_none_iff.1 hf
      by_cases ha : reportIds r.actions = []
      · exact ⟨_, .unreportable hw ha⟩
      · cases ht : k.codec.readTrigger r.eventTrigger with
        | error e => exact ⟨_, .untimed hw ha ht⟩
        | ok t =>
            cases hk : s.subscriptions.entries.get? (.of r.request r.function) with
            | some e => exact ⟨_, .taken hw ha ht hk⟩
            | none => exact ⟨_, .admitted hw ha ht hk⟩

end Kpm

end E2Node
