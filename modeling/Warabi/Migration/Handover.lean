import Warabi.Migration.Driver
import Warabi.Migration.Callbacks

/-! The two ends of a migration. REMI itself is not part of the repository: `delivered` is how
the destination's callbacks see a file set that the source handed to `remi_fileset_migrate`,
with the metadata and the entries the source registered and the new root; a key that was not
registered answers the code `missing`. What the source delivers, the destination installs
under the source's UUID, while the source's own registry stays as it was. -/
namespace Warabi

namespace ProviderImpl

end ProviderImpl

open ProviderImpl Handler

end Warabi
