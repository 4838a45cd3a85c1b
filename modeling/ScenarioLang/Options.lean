import ScenarioLang.Path

namespace ScenarioLang

-- How a compilation is run. No concurrency, and a concurrency of zero, mean
-- that any number of files may be compiled at a time.
structure Options where
  language : Text
  lineBreak : Text
  concurrency : Option Nat
  stopOnError : Bool
  dictionaryFolder : Option Path
  deriving DecidableEq, Repr

namespace Options

def standard : Options := ⟨"en".toList,['\n'],some 10,false,none⟩

def limit? (options : Options) : Option Nat := options.concurrency.filter (· ≠ 0)

end Options
end ScenarioLang
