import TestReach.Locator

namespace TestReach

structure Toolchain (m : Type → Type) where
  runTests : Invocation → m (Except Failure Unit)
  summarize : Locator → String → m (Except Failure String)

end TestReach
