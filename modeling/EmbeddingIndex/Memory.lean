/-!
The most that one block of memory can hold. A request beyond that is not refused but brings the
operation down.
-/

namespace EmbeddingIndex.Memory

def largestBlock : Nat := 0x7fffffffffffffff

def holds (count size : Nat) : Bool := count * size ≤ largestBlock

end EmbeddingIndex.Memory
