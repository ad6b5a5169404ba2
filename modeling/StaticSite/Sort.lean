/-
Module: StaticSite.Sort
Purpose: Sorting of lists by insertion.
Trusted boundary: none
Main exports:
  insertSorted, sortBy, stringLe, pairLe, listLe
-/
namespace StaticSite

/-- Insert an element before the first one that it is not greater than. -/
def insertSorted {α : Type} (le : α → α → Bool) (a : α) : List α → List α
  | [] => [a]
  | b :: rest => if le a b then a :: b :: rest else b :: insertSorted le a rest

/-- The elements in ascending order; equal ones keep their order. -/
def sortBy {α : Type} (le : α → α → Bool) : List α → List α
  | [] => []
  | a :: rest => insertSorted le a (sortBy le rest)

/-- Strings are ordered by their code points. -/
def stringLe (a b : String) : Bool :=
  decide (a ≤ b)

/-- Pairs are ordered by their first component, then by their second. -/
def pairLe (a b : String × String) : Bool :=
  if a.1 = b.1 then stringLe a.2 b.2 else stringLe a.1 b.1

/-- Lists are ordered by the first element in which they differ; a list comes
before those that it starts. -/
def listLe : List String → List String → Bool
  | [], _ => true
  | _ :: _, [] => false
  | a :: as, b :: bs => if a = b then listLe as bs else stringLe a b

end StaticSite
