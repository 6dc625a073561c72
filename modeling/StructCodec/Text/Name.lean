/-!
# Private names

Names that start with an underscore are private: no part of the library's own
interface goes by one.
-/

namespace StructCodec.Text

/-- Whether a name is private. -/
def isPrivateName (name : String) : Bool :=
  name.toList.head? == some '_'

end StructCodec.Text
