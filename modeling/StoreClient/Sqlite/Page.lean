-- The pages of an SQLite file, and the rows of a table, which is a tree of pages. Numbers
-- have their highest byte first.

namespace StoreClient

namespace Sqlite

/-! ## Numbers -/

/-- The number of some bytes at a position. -/
def numberAt? (data : ByteArray) (position : Nat) : Nat → Option Nat
  | 0 => some 0
  | count + 1 => do
    let high ← numberAt? data position count
    let byte ← data[position + count]?
    pure (high * 256 + byte.toNat)

/-- A number of up to nine bytes, and the position after it. Each of the first eight gives seven
bits and says by its highest bit whether another one follows; the ninth gives all its bits. -/
def packedAfter? (data : ByteArray) (position : Nat) (number : Nat) : Nat → Option (Nat × Nat)
  | 0 => do
    let byte ← data[position]?
    pure (number * 256 + byte.toNat, position + 1)
  | more + 1 => do
    let byte ← data[position]?
    let n := byte.toNat
    if n < 128 then pure (number * 128 + n, position + 1)
    else packedAfter? data (position + 1) (number * 128 + (n - 128)) more

def packedAt? (data : ByteArray) (position : Nat) : Option (Nat × Nat) :=
  packedAfter? data position 0 8

/-- The signed number that some bits stand for. -/
def signed (bits n : Nat) : Int :=
  if n < Nat.pow 2 (bits - 1) then n else (n : Int) - Nat.pow 2 bits

/-! ## Files -/

structure File where
  data : ByteArray
  pageSize : Nat
  /-- How much of each page may hold content. -/
  usable : Nat

/-- The text with which a file begins, up to a zero byte. -/
def signature : ByteArray := "SQLite format 3".toUTF8

/-- A file whose texts are in UTF-8. -/
def File.ofBytes? (data : ByteArray) : Option File := do
  if (data.extract 0 15).data ≠ signature.data then none
  else
    let size ← numberAt? data 16 2
    let reserved ← numberAt? data 20 1
    let encoding ← numberAt? data 56 4
    let pageSize := if size = 1 then 65536 else size
    if encoding = 2 ∨ encoding = 3 ∨ pageSize < 512 then none
    else some ⟨data, pageSize, pageSize - reserved⟩

namespace File

/-- Where a page begins. Pages count from one. -/
def start (f : File) (page : Nat) : Nat := (page - 1) * f.pageSize

def pageCount (f : File) : Nat := f.data.size / f.pageSize

/-! ## Content of rows -/

/-- The rest of a content that goes on over other pages: each begins with the number of the next
one. The first number bounds the pages. -/
def overflow? (f : File) : Nat → Nat → Nat → Option ByteArray
  | _, _, 0 => some ByteArray.empty
  | 0, _, _ => none
  | bound + 1, page, size => do
    if page = 0 then none
    else
      let next ← numberAt? f.data (f.start page) 4
      let here := min size (f.usable - 4)
      let rest ← f.overflow? bound next (size - here)
      pure (f.data.extract (f.start page + 4) (f.start page + 4 + here) ++ rest)

/-- How much of a content of some size stands on the page of its row. -/
def localSize (f : File) (size : Nat) : Nat :=
  if size ≤ f.usable - 35 then size
  else
    let least := (f.usable - 12) * 32 / 255 - 23
    let fitting := least + (size - least) % (f.usable - 4)
    if fitting ≤ f.usable - 35 then fitting else least

/-- A row at a position: its number and its content. -/
def rowAt? (f : File) (position : Nat) : Option (Int × ByteArray) := do
  let (size, position) ← packedAt? f.data position
  let (number, position) ← packedAt? f.data position
  let here := f.localSize size
  let page ← if here < size then numberAt? f.data (position + here) 4 else some 0
  let rest ← f.overflow? f.pageCount page (size - here)
  if f.data.size < position + here then none
  else pure (signed 64 number, f.data.extract position (position + here) ++ rest)

/-! ## Tables -/

/-- The positions of the cells of a page, from where they are listed. -/
def cells? (f : File) (page listed count : Nat) : Option (List Nat) :=
  (List.range count).mapM fun i =>
    (numberAt? f.data (listed + 2 * i) 2).map fun offset => f.start page + offset

/-- The rows of a table in order, from the page at the top of its tree. The first number bounds
the height of the tree. -/
def rows? (f : File) : Nat → Nat → Option (List (Int × ByteArray))
  | 0, _ => none
  | height + 1, page => do
    if page = 0 then none
    else
      let header := f.start page + (if page = 1 then 100 else 0)
      let kind ← numberAt? f.data header 1
      let count ← numberAt? f.data (header + 3) 2
      if kind = 13 then (← f.cells? page (header + 8) count).mapM f.rowAt?
      else if kind = 5 then
        let below ← (← f.cells? page (header + 12) count).mapM fun cell => numberAt? f.data cell 4
        let last ← numberAt? f.data (header + 8) 4
        let parts ← (below ++ [last]).mapM fun page => f.rows? height page
        pure parts.flatten
      else none

/-- The rows of the table whose tree has a page at its top. No tree is as high as this bound. -/
def table? (f : File) (page : Nat) : Option (List (Int × ByteArray)) := f.rows? 20 page

end File

end Sqlite

end StoreClient
