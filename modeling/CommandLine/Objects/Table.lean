import CommandLine.Objects.Decode
import CommandLine.Objects.Data.Strings
import CommandLine.Objects.Data.Entries1
import CommandLine.Objects.Data.Entries2
import CommandLine.Objects.Data.Modules

/-!
# The object world

The world of objects entry points can reach, read from its tables: the front end's own
package, the standard modules, and the packages the front end depends on.
-/

namespace CommandLine.Objects

/-- The world of objects entry points can reach. -/
def world : World :=
  Decode.world Data.stringsText
    ("\n".intercalate [Data.entriesText1,
      Data.entriesText2])
    Data.modulesText Data.startText Data.knownText

end CommandLine.Objects
