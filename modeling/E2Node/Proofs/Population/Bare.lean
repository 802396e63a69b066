import E2Node.Proofs.Population.Replica

namespace E2Node.Population

inductive Answer
  | created (imsis : List Imsi)
  | destroyed (ue : Ue)
  | done

def Call.finish? (p : Population) : Call → Option (Except RegistryError (Answer × Population))
  | create src s n ds => (p.create src n ds s).1.map fun r => r.map fun x => (.created x.1, x.2)
  | setCount src s n ds order =>
      (p.setCount src n ds order s).1.map fun r => r.map fun q => (.done, q)
  | adjust src s current n ds order =>
      (p.adjust src current n ds order s).1.map fun r => r.map fun q => (.done, q)
  | destroy imsi => some ((p.destroy imsi).map fun x => (.destroyed x.1, x.2))
  | move live imsi ecgi strength =>
      some ((p.move live imsi ecgi strength).map fun q => (.done, q))

/-- The population without its watchers. -/
def bare (p : Population) : Population := { p with feeds := [], nextHandle := ⟨0⟩ }

variable {p q : Population} {σ : Type} {c : Call}

theorem end?_eq_finish? (p : Population) (c : Call) :
    c.end? p = (c.finish? p).map fun r => r.map Prod.snd := by
  cases c with
  | create src s n ds =>
      rw [Call.end?, Call.finish?]
      rcases (p.create src n ds s).1 with _ | _ | _ <;> rfl
  | setCount src s n ds order =>
      rw [Call.end?, Call.finish?]
      rcases (p.setCount src n ds order s).1 with _ | _ | _ <;> rfl
  | adjust src s current n ds order =>
      rw [Call.end?, Call.finish?]
      rcases (p.adjust src current n ds order s).1 with _ | _ | _ <;> rfl
  | destroy imsi =>
      rw [Call.end?, Call.finish?]
      cases p.destroy imsi <;> rfl
  | move live imsi ecgi strength =>
      rw [Call.end?, Call.finish?]
      cases p.move live imsi ecgi strength <;> rfl

theorem bare_ues (p : Population) : p.bare.ues = p.ues := rfl

theorem place_bare (cells : List Cell) (ds : List Draw) (p : Population) :
    place cells ds p.bare = (place cells ds p).map fun r => (r.1, r.2.bare) := by
  induction cells generalizing ds p with
  | nil => rfl
  | cons c cs ih =>
      rw [place, place, bare_ues]
      cases firstFree p.ues ds with
      | none => rfl
      | some r =>
          have hb : p.bare.insertNew c r.1 = (p.insertNew c r.1).bare := rfl
          dsimp only
          rw [hb, ih]
          cases place cs r.2 (p.insertNew c r.1) <;> rfl

theorem create_bare (src : CellSource σ) (n : Nat) (ds : List Draw) (s : σ) :
    (p.bare.create src n ds s).1 =
      (p.create src n ds s).1.map fun r => r.map fun x => (x.1, x.2.bare) := by
  rw [create, create]
  split
  · rfl
  · split
    · rfl
    · rename_i cells t hg
      change (if capacity < p.size + cells.length then _ else _) = _
      dsimp only [insertAll]
      split
      · rfl
      · rw [place_bare, Option.map_map, Option.map_map]
        rfl

theorem destroy_bare (p : Population) (i : Imsi) :
    p.bare.destroy i = (p.destroy i).map fun x => (x.1, x.2.bare) := by
  rw [destroy, destroy, bare_ues]
  cases p.ues.get? i <;> rfl

theorem discard_bare (p : Population) (i : Imsi) : p.bare.discard i = (p.discard i).bare := by
  rw [discard, discard, destroy_bare]
  cases p.destroy i <;> rfl

theorem discardAll_bare (is : List Imsi) (p : Population) :
    is.foldl discard p.bare = (is.foldl discard p).bare := by
  induction is generalizing p with
  | nil => rfl
  | cons i is ih => rw [List.foldl_cons, List.foldl_cons, discard_bare, ih]

theorem adjust_bare (src : CellSource σ) (current n : Nat) (ds : List Draw) (order : Shuffle)
    (s : σ) : (p.bare.adjust src current n ds order s).1 =
      (p.adjust src current n ds order s).1.map fun r => r.map bare := by
  rw [adjust, adjust]
  split
  · dsimp only
    rw [create_bare, Option.map_map, Option.map_map]
    congr 1
    funext r
    cases r <;> rfl
  · split
    · have hs : p.bare.shrink (current - n) order = (p.shrink (current - n) order).bare :=
        discardAll_bare _ p
      rw [hs]
      rfl
    · rfl

theorem move_bare (live : Ecgi → Bool) (i : Imsi) (ecgi : Ecgi) (strength : Binary64) :
    p.bare.move live i ecgi strength = (p.move live i ecgi strength).map bare := by
  rw [move, move, bare_ues]
  split
  · cases p.ues.get? i <;> rfl
  · rfl

theorem finish?_bare (p : Population) (c : Call) :
    c.finish? p.bare = (c.finish? p).map fun r => r.map fun x => (x.1, x.2.bare) := by
  cases c with
  | create src s n ds =>
      rw [Call.finish?, Call.finish?, create_bare]
      rcases (p.create src n ds s).1 with _ | _ | _ <;> rfl
  | setCount src s n ds order =>
      rw [Call.finish?, Call.finish?, setCount, setCount]
      change Option.map _ (p.bare.adjust src p.size n ds order s).1 = _
      rw [adjust_bare]
      rcases (p.adjust src p.size n ds order s).1 with _ | _ | _ <;> rfl
  | adjust src s current n ds order =>
      rw [Call.finish?, Call.finish?, adjust_bare]
      rcases (p.adjust src current n ds order s).1 with _ | _ | _ <;> rfl
  | destroy imsi =>
      rw [Call.finish?, Call.finish?, destroy_bare]
      cases p.destroy imsi <;> rfl
  | move live imsi ecgi strength =>
      rw [Call.finish?, Call.finish?, move_bare]
      cases p.move live imsi ecgi strength <;> rfl

theorem made_create_bare (src : CellSource σ) (n : Nat) (ds : List Draw) (s : σ) :
    made (p.bare.create src n ds s).1 = made (p.create src n ds s).1 := by
  rw [create_bare]
  rcases (p.create src n ds s).1 with _ | _ | _ <;> rfl

theorem events_bare (p q : Population) (c : Call) : c.events p.bare q.bare = c.events p q := by
  have hc : c.created p.bare = c.created p := by
    cases c with
    | create src s n ds => exact made_create_bare src n ds s
    | setCount src s n ds order =>
        rw [Call.created, Call.created, made_create_bare]
        rfl
    | adjust src s current n ds order => rw [Call.created, Call.created, made_create_bare]
    | destroy | move => rfl
  have hd : c.destroyed p.bare = c.destroyed p := by
    cases c <;> rfl
  rw [Call.events, hc, hd]
  rfl

end E2Node.Population
