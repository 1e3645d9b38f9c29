import RoomDraw.Text.Utf8

/-!
# Feeds

Bytes as they come from a reader: in chunks, of any size, and then either the end of the input or
a failure to read on. Only one thing depends on the sizes: a byte-order mark at the front is
dropped if the first chunk holds all of it, and ends the input if the chunk holds nothing else.
-/

namespace RoomDraw

inductive FeedEnd where
  | complete
  | failed (message : String)
deriving DecidableEq, Repr

/-- The chunks handed out one after the other, and what follows them. -/
structure Feed where
  chunks : List Bytes
  ending : FeedEnd
deriving DecidableEq, Repr

namespace Feed

/-- All bytes at once. -/
def ofBytes (bytes : Bytes) : Feed := ⟨[bytes], .complete⟩

/-- All bytes, in chunks of the given size. -/
def inChunks (size : Nat) (bytes : Bytes) : Feed := ⟨split bytes.length bytes, .complete⟩
where
  /-- Chunks of the size, at most `fuel` of them. -/
  split : Nat → Bytes → List Bytes
    | 0, _ => []
    | fuel + 1, bytes =>
      if bytes.isEmpty then [] else bytes.take size :: split fuel (bytes.drop size)

/-- A feed that cannot be read at all. -/
def broken (message : String) : Feed := ⟨[], .failed message⟩

/-- The first bytes, as many as given, and then a failure. -/
def failAfter (count : Nat) (message : String) (bytes : Bytes) : Feed :=
  ⟨(ofBytes (bytes.take count)).chunks, .failed message⟩

def byteOrderMark : Bytes := [0xEF, 0xBB, 0xBF]

/-- How many bytes at the front are a mark to be dropped: three or none. -/
def markLength (feed : Feed) : Nat :=
  match feed.chunks.head? with
  | some chunk => if byteOrderMark.isPrefixOf chunk then 3 else 0
  | none => 0

/-- All bytes that the feed hands out. -/
def bytes (feed : Feed) : Bytes := feed.chunks.flatten

/-- The feed as far as a table is read from it. Nothing is left of a first chunk that is the mark
alone, and a chunk of which nothing is left counts as the end of the input. -/
def effective (feed : Feed) : Feed :=
  if feed.chunks.head? = some byteOrderMark then ⟨[byteOrderMark], .complete⟩ else feed

end Feed

end RoomDraw
