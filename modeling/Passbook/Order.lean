/-!
# Orders by a key

Values are often ordered as one of their parts is. When the part tells the values apart, the order
is as lawful as that of the part.
-/
namespace Passbook

variable {α β : Type} [Ord β]

/-- The order by a key that tells values apart finds only a value itself equal to it. -/
theorem lawfulEqOn [Std.LawfulEqOrd β] (f : α → β) (h : ∀ a b, f a = f b → a = b) :
    Std.LawfulEqCmp (compareOn f) where
  compare_self {a} := show compare (f a) (f a) = .eq from Std.ReflCmp.compare_self
  eq_of_compare {a b} hab :=
    h a b (Std.LawfulEqCmp.eq_of_compare (show compare (f a) (f b) = .eq from hab))

end Passbook
