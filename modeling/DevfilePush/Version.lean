/-!
The version of the library and of its command line.
-/

namespace DevfilePush

/-- The version, as `--version` shows it. -/
def version : String := "0.1.0"

end DevfilePush
