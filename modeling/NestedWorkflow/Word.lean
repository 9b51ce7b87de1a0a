/-!
# Words

How many values the words have that bound the integers of documents.
-/

namespace NestedWorkflow.Word

/-- The number of values of thirty-one bits. -/
def size31 : Nat := 2147483648

/-- The number of values of thirty-two bits. -/
def size32 : Nat := 4294967296

/-- The number of values of sixty-three bits. -/
def size63 : Nat := 9223372036854775808

/-- The number of values of sixty-four bits. -/
def size64 : Nat := 18446744073709551616

end NestedWorkflow.Word
