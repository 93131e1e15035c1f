import WebLint.Proofs.Record.Containment
import WebLint.Proofs.Toml.Integers
import WebLint.Proofs.Utf8
import WebLint.Settings.Load

namespace WebLint.Settings

variable {f : Fault}

end WebLint.Settings
