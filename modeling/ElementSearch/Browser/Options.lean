/-
# Options

How a browser is started or reached.
-/

namespace ElementSearch

/-- How a browser is started. -/
structure LaunchOptions where
  /-- Whether the browser runs without a window that can be seen. -/
  headless : Bool := true
  windowWidth : UInt32 := 1280
  windowHeight : UInt32 := 800
  /-- The program to start; searched for if not given. -/
  program : Option String := none
  userDataDir : Option String := none
  sandbox : Bool := true
  deriving DecidableEq, Repr

/-- What a browser program is started with. -/
structure LaunchArguments where
  headless : Bool
  noSandbox : Bool
  windowSize : String
  userDataDir : Option String
  enableAutomation : Bool
  disabledBlinkFeatures : String
  deriving DecidableEq, Repr

namespace LaunchOptions

/-- The arguments for a browser program. It is kept from showing that it is automated. -/
def arguments (options : LaunchOptions) : LaunchArguments where
  headless := options.headless
  noSandbox := !options.sandbox
  windowSize := toString options.windowWidth ++ "," ++ toString options.windowHeight
  userDataDir := options.userDataDir
  enableAutomation := false
  disabledBlinkFeatures := "AutomationControlled"

end LaunchOptions

/-- How a running browser is reached. -/
structure ConnectionOptions where
  url : String
  /-- How long to wait for an answer, in milliseconds. -/
  timeout : UInt64 := 30000
  deriving DecidableEq, Repr

end ElementSearch
