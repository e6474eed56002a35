import UniqueChain.ChargeTransaction.Fee
import UniqueChain.Collators.Bonds
import UniqueChain.Evm.BulkMint
import UniqueChain.Evm.TokenUri
import UniqueChain.ForeignAssets.Locations
import UniqueChain.Inflation.Rates
import UniqueChain.Inflation.Slots
import UniqueChain.Minting.Batch
import UniqueChain.Nesting.NftIndex
import UniqueChain.Promotion.Counters
import UniqueChain.Promotion.Interest
import UniqueChain.Promotion.Panics
import UniqueChain.Promotion.Totals
import UniqueChain.Properties.Container
import UniqueChain.Properties.Immutable
import UniqueChain.Properties.Rule
import UniqueChain.Refungible.HolderIndex
import UniqueChain.Registry.Counters
import UniqueChain.Registry.Limits
import UniqueChain.Runtime.Budget
import UniqueChain.Runtime.Destroyed
import UniqueChain.Runtime.Failures
import UniqueChain.Runtime.Systems
import UniqueChain.Runtime.TokenLimit
import UniqueChain.Runtime.ZeroAccount
import UniqueChain.Sponsorship.Consent
