import E2Node.Ident.Plmn
import E2Node.Procedure.Outcome
import E2Node.Session.Link

namespace E2Node

structure NodeIdentity where
  gnb : GnbId
  plmn : Plmn
  deriving DecidableEq

structure RanFunction where
  id : RanFunctionId
  modelName : String
  revision : UInt16
  oid : String
  version : String
  definition : List UInt8
  deriving DecidableEq

def RanFunction.item (f : RanFunction) : RanFunctionItem := ⟨f.id, f.revision, f.oid, f.definition⟩

structure ServiceModel (σ : Type) where
  function : RanFunction
  subscription : SessionId → SubscriptionRequest → σ → Except RequestError SubscriptionOutcome × σ
  delete : SubscriptionDeleteRequest → σ → Except RequestError DeleteOutcome × σ
  control : ControlRequest → σ → Except RequestError ControlOutcome × σ
  update : ConnectionUpdate → σ → Except RequestError UpdateOutcome × σ

namespace ServiceModel

variable {σ τ : Type}

def id (m : ServiceModel σ) : RanFunctionId := m.function.id

def onPart (m : ServiceModel σ) (part : τ → σ) (put : σ → τ → τ) : ServiceModel τ where
  function := m.function
  subscription session request s :=
    let r := m.subscription session request (part s)
    (r.1, put r.2 s)
  delete request s :=
    let r := m.delete request (part s)
    (r.1, put r.2 s)
  control request s :=
    let r := m.control request (part s)
    (r.1, put r.2 s)
  update request s :=
    let r := m.update request (part s)
    (r.1, put r.2 s)

end ServiceModel

structure ModelRegistry (σ : Type) where
  models : List (ServiceModel σ)
  ascending : models.Pairwise fun a b => a.id.val < b.id.val

namespace ModelRegistry

variable {σ : Type}

def empty : ModelRegistry σ := ⟨[], .nil⟩

def get? (r : ModelRegistry σ) (id : RanFunctionId) : Option (ServiceModel σ) :=
  r.models.find? fun m => m.id = id

def insertModel (m : ServiceModel σ) : List (ServiceModel σ) → List (ServiceModel σ)
  | [] => [m]
  | x :: xs => if m.id.val < x.id.val then m :: x :: xs else x :: insertModel m xs

theorem mem_insertModel {m x : ServiceModel σ} {xs : List (ServiceModel σ)} :
    x ∈ insertModel m xs ↔ x = m ∨ x ∈ xs := by
  induction xs with
  | nil => simp [insertModel]
  | cons y ys ih =>
      unfold insertModel
      split
      · simp
      · simp only [List.mem_cons, ih]
        constructor
        · rintro (h | h | h) <;> simp [h]
        · rintro (h | h | h) <;> simp [h]

theorem ascending_insertModel {m : ServiceModel σ} {xs : List (ServiceModel σ)}
    (h : xs.Pairwise fun a b => a.id.val < b.id.val) (hm : ∀ x ∈ xs, x.id ≠ m.id) :
    (insertModel m xs).Pairwise fun a b => a.id.val < b.id.val := by
  induction xs with
  | nil => simp [insertModel]
  | cons y ys ih =>
      have hy := List.pairwise_cons.1 h
      unfold insertModel
      split
      · rename_i hlt
        refine List.pairwise_cons.2 ⟨fun z hz => ?_, h⟩
        rcases List.mem_cons.1 hz with rfl | hz
        · exact hlt
        · exact UInt16.lt_trans hlt (hy.1 z hz)
      · rename_i hlt
        refine List.pairwise_cons.2
          ⟨fun z hz => ?_, ih hy.2 fun x hx => hm x (List.mem_cons_of_mem _ hx)⟩
        rcases mem_insertModel.1 hz with rfl | hz
        · have hne : y.id.val ≠ z.id.val := fun he =>
            hm y List.mem_cons_self (by cases hyi : y.id; cases hzi : z.id; simp_all)
          exact UInt16.lt_of_le_of_ne (UInt16.not_lt.1 hlt) hne
        · exact hy.1 z hz

def register (r : ModelRegistry σ) (m : ServiceModel σ) : Except RequestError (ModelRegistry σ) :=
  if h : ∀ x ∈ r.models, x.id ≠ m.id then
    .ok ⟨insertModel m r.models, ascending_insertModel r.ascending h⟩
  else .error (.invalid s!"RAN function {m.id.text} is already registered")

def announced (r : ModelRegistry σ) : List RanFunctionItem := r.models.map fun m => m.function.item

def size (r : ModelRegistry σ) : Nat := r.models.length

end ModelRegistry

end E2Node
