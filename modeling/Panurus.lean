import Panurus.Auditdb.LockerSafety
import Panurus.Auditor.Attribution
import Panurus.Cleanup.Leadership
import Panurus.Client.FilteredUse
import Panurus.Client.TransferConservation
import Panurus.Evm.Collection
import Panurus.Evm.Convergence
import Panurus.Evm.NonceSafety
import Panurus.Evm.TokenStateInvariant
import Panurus.Evm.VersionKeeper
import Panurus.Fabtoken.OutputIndexes
import Panurus.Fabtoken.SignatureCollection
import Panurus.Finality.Queue
import Panurus.Htlc.MetadataAccounting
import Panurus.Recovery.Exclusivity
import Panurus.Rws.KeyClasses
import Panurus.Rws.SplitKeys
import Panurus.Sherdlock.Exclusive
import Panurus.Sherdlock.Fetcher
import Panurus.Tokens.CommitOrder
import Panurus.Ttx.Distribution
import Panurus.Ttx.SigningSequences
import Panurus.Zkatdlog.AuditSoundness
import Panurus.Zkatdlog.SameType
import Panurus.Zkatdlog.TypeAndSumCompleteness
import Panurus.Zkatdlog.Upgrade
