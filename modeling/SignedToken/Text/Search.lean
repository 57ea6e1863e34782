/-!
# Finding marks

The place where a mark is found in a list divides the list into what stands before the mark and what
stands after it.  One search finds the first occurrence, one the last, and another one goes through
the list once.
-/

namespace SignedToken.Search

/-- What stands before and after the first occurrence of a mark. -/
def breakAt? {α : Type} [BEq α] (mark : List α) : List α → Option (List α × List α)
  | [] => if mark.isEmpty then some ([], []) else none
  | item :: rest =>
    if mark.isPrefixOf (item :: rest) then some ([], (item :: rest).drop mark.length)
    else (breakAt? mark rest).map fun (before, after) => (item :: before, after)

/-- What stands before and after the last occurrence of an item. -/
def breakAtLast? {α : Type} [BEq α] (mark : α) (items : List α) : Option (List α × List α) :=
  (breakAt? [mark] items.reverse).map fun (after, before) => (before.reverse, after.reverse)

/-- The number of items up to the end of a mark, of which `left` is still to come.  An item that is
not the next one of the mark is passed over, and the mark is to come as a whole again. -/
def runTo? {α : Type} [BEq α] (mark : List α) : (left : List α) → List α → Option Nat
  | [], _ => some 0
  | _ :: _, [] => none
  | expected :: left, item :: rest =>
    (runTo? mark (if item == expected then left else mark) rest).map (· + 1)

/-- What stands before and after a mark that is found in one go through a list.  The mark is missed
if it starts inside a part of it that is not completed. -/
def breakAtRun? {α : Type} [BEq α] (mark items : List α) : Option (List α × List α) :=
  (runTo? mark mark items).map fun count => (items.take (count - mark.length), items.drop count)

def splitAt {α : Type} (separates : α → Bool) : List α → List (List α)
  | [] => [[]]
  | item :: rest =>
    if separates item then [] :: splitAt separates rest
    else
      match splitAt separates rest with
      | [] => [[item]]
      | piece :: others => (item :: piece) :: others

end SignedToken.Search
