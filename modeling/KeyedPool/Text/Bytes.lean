/-!
# Texts by their bytes

Positions in a text are counted in the bytes of its UTF-8 form.

* `KeyedPool.Text.byteCount`: how many bytes a text takes.
* `KeyedPool.Text.slice`: the part of a text between two positions.
-/

namespace KeyedPool.Text

/-- How many bytes a text takes. -/
def byteCount : List Char → Nat
  | [] => 0
  | c :: r => byteCount r + c.utf8Size

/-- A text without so many bytes in front, unless a character would be torn apart. -/
def dropBytes : Nat → List Char → Option (List Char)
  | 0, cs => some cs
  | _ + 1, [] => none
  | n + 1, c :: r => if c.utf8Size ≤ n + 1 then dropBytes (n + 1 - c.utf8Size) r else none

/-- So many bytes at the front of a text, unless a character would be torn apart. -/
def takeBytes : Nat → List Char → Option (List Char)
  | 0, _ => some []
  | _ + 1, [] => none
  | n + 1, c :: r =>
    if c.utf8Size ≤ n + 1 then (takeBytes (n + 1 - c.utf8Size) r).map (c :: ·) else none

/-- The part of a text between two positions, if each of them lies between two characters. -/
def slice (cs : List Char) (start stop : Nat) : Option (List Char) :=
  (dropBytes start cs).bind (takeBytes (stop - start))

/-- What is behind a text begins at the number of its bytes. -/
theorem dropBytes_append (xs ys : List Char) : dropBytes (byteCount xs) (xs ++ ys) = some ys := by
  induction xs with
  | nil => simp [byteCount, dropBytes]
  | cons c r ih =>
    have hpos : 0 < c.utf8Size := c.utf8Size_pos
    have hcount : byteCount (c :: r) = byteCount r + c.utf8Size - 1 + 1 := by
      rw [byteCount]
      omega
    rw [hcount, List.cons_append, dropBytes, if_pos (by omega)]
    exact (congrArg (dropBytes · (r ++ ys)) (by omega)).trans ih

/-- The first bytes of a text, as many as a part in front of it takes, are that part. -/
theorem takeBytes_append (xs ys : List Char) : takeBytes (byteCount xs) (xs ++ ys) = some xs := by
  induction xs with
  | nil => simp [byteCount, takeBytes]
  | cons c r ih =>
    have hpos : 0 < c.utf8Size := c.utf8Size_pos
    have hcount : byteCount (c :: r) = byteCount r + c.utf8Size - 1 + 1 := by
      rw [byteCount]
      omega
    rw [hcount, List.cons_append, takeBytes, if_pos (by omega)]
    rw [show byteCount r + c.utf8Size - 1 + 1 - c.utf8Size = byteCount r by omega, ih]
    rfl

/-- The slice between the ends of a part is that part. -/
theorem slice_append (xs ys zs : List Char) :
    slice (xs ++ (ys ++ zs)) (byteCount xs) (byteCount xs + byteCount ys) = some ys := by
  rw [slice, dropBytes_append, Option.bind_some, Nat.add_sub_cancel_left, takeBytes_append]

end KeyedPool.Text
