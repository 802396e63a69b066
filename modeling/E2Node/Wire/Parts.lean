namespace E2Node

structure Parts (α β : Type) where
  split : α → β
  join : β → α
  join_split : ∀ a, join (split a) = a := by intro a; rfl
  split_join : ∀ b, split (join b) = b := by intro b; rfl

end E2Node
