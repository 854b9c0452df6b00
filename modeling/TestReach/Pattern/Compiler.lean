/-!
# Compilers of patterns

The language of patterns is not part of the program. A pattern is compiled to the names that it
selects, or refused.
-/

namespace TestReach.Pattern

class Compiler where
  compile? (pattern : String) : Option (String → Bool)

end TestReach.Pattern
