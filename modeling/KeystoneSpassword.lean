import KeystoneSpassword.Lib.Programs
import KeystoneSpassword.Lib.Runs
import KeystoneSpassword.Lib.History
import KeystoneSpassword.Lib.SharedCounter
import KeystoneSpassword.Lib.Interleaving
import KeystoneSpassword.Lib.UrlRules
import KeystoneSpassword.Lib.Tables
import KeystoneSpassword.Model
import KeystoneSpassword.Driver
import KeystoneSpassword.Manager
import KeystoneSpassword.Mailer
import KeystoneSpassword.Identity
import KeystoneSpassword.Resources
import KeystoneSpassword.System
import KeystoneSpassword.Outcomes
import KeystoneSpassword.ResourceOutcomes
import KeystoneSpassword.Congruence
import KeystoneSpassword.Moves
import KeystoneSpassword.Invariants
import KeystoneSpassword.SecondFactor
import KeystoneSpassword.Challenge
import KeystoneSpassword.Addresses
import KeystoneSpassword.Lockout
import KeystoneSpassword.ConcurrentLogins
import KeystoneSpassword.Table
import KeystoneSpassword.Ledger
import KeystoneSpassword.Refusals
import KeystoneSpassword.Noninterference
import KeystoneSpassword.PasswordAge
import KeystoneSpassword.StrengthGate
import KeystoneSpassword.ConcurrentRecoveries
import KeystoneSpassword.EmailVerification
import KeystoneSpassword.Disabled
import KeystoneSpassword.ResetCode
import KeystoneSpassword.WrongCode
import KeystoneSpassword.VerifiedAddress
import KeystoneSpassword.Mails
import KeystoneSpassword.Links
import KeystoneSpassword.Delivery
import KeystoneSpassword.Blacklist
import KeystoneSpassword.Expiry
import KeystoneSpassword.Recovery
import KeystoneSpassword.PreviousAttempts
import KeystoneSpassword.Presentation
import KeystoneSpassword.Stepwise
import KeystoneSpassword.Uninterrupted
import KeystoneSpassword.Provenance
import KeystoneSpassword.Interference
import KeystoneSpassword.InterleavedLogins
import KeystoneSpassword.Deployments
import KeystoneSpassword.Routes
import KeystoneSpassword.FollowedLinks
import KeystoneSpassword.IdMapping
import KeystoneSpassword.IdRegistry
import KeystoneSpassword.ConcurrentMappings
import KeystoneSpassword.Isolation
import KeystoneSpassword.CodeRate
import KeystoneSpassword.Causes
import KeystoneSpassword.ProjectRoles
import KeystoneSpassword.AuthPlugin
import KeystoneSpassword.WayBack
