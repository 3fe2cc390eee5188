namespace Brokerage

/-!
Putting entries in order when some of them cannot be compared.

A relation says which entries are before which, and may leave entries
unrelated.  What stands in order at the front is kept.  Every further entry is
inserted by halving: it goes to the front of the entry in the middle when it is
before that one, and behind it otherwise.
-/

namespace Arrangement

variable {β : Type} (before : β -> β -> Bool)

/-- The front in which no entry is before the one ahead of it, and the rest. -/
def rising : List β -> List β × List β
  | [] => ([], [])
  | [entry] => ([entry], [])
  | first :: second :: rest =>
      if before second first then ([first], second :: rest)
      else
        let (front, rest) := rising (second :: rest)
        (first :: front, rest)

/-- The front in which every entry is before the one ahead of it, turned round; `turned`, of which
`last` was turned last, stands ahead of all. -/
def falling (last : β) (turned : List β) : List β -> List β × List β
  | [] => (turned, [])
  | entry :: rest =>
      if before entry last then falling entry (entry :: turned) rest else (turned, entry :: rest)

/-- What stands in order at the front, in one direction or the other, and the rest. -/
def front : List β -> List β × List β
  | first :: second :: rest =>
      if before second first then falling before second [second, first] rest
      else rising before (first :: second :: rest)
  | entries => (entries, [])

/-- Insert an entry by halving. -/
def inserted (entry : β) (entries : List β) : List β :=
  match rest : entries.drop (entries.length / 2) with
  | [] => [entry]
  | middle :: behind =>
      if before entry middle then
        inserted entry (entries.take (entries.length / 2)) ++ middle :: behind
      else entries.take (entries.length / 2) ++ middle :: inserted entry behind
termination_by entries.length
decreasing_by
  all_goals
    have length := congrArg List.length rest
    rw [List.length_drop, List.length_cons] at length
  · rw [List.length_take]
    omega
  · omega

/-- All entries in order. -/
def arranged (entries : List β) : List β :=
  let (front, rest) := front before entries
  rest.foldl (fun placed entry => inserted before entry placed) front

end Arrangement
end Brokerage
