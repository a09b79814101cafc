import Breez.Go.Runtime
import Breez.Go.Float
import Breez.Crypto.Sha256
import Breez.Go.Hex
import Breez.Account.Lnurl
import Breez.Account.LnurlPay
import Breez.Account.LnurlSession
import Breez.Account.Sweep
import Breez.Account.LnurlAuth
import Breez.Account.Signer
import Breez.Chainservice.FilterHeader
import Breez.Lnnode.Daemon
import Breez.Lnnode.Lifecycle
import Breez.Lnnode.DiskUsage
