import SensorSim.Config.Section

/-!
# Diagnostics of sections
-/

namespace SensorSim.Config

open Text (quote quoted?)

def Section.describe (s : Section) : String :=
  "Configuration \x7b name: " ++ quote s.name ++ ", values: \x7b" ++
    ", ".intercalate (s.entries.map fun (k, v) => quote k ++ ": " ++ quote v) ++
    "\x7d, base_dir: " ++ quoted? s.baseDirectory ++ " \x7d"

end SensorSim.Config
