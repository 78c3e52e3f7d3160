import TokenAuthority.Access.Decision
import TokenAuthority.Http.Api
import TokenAuthority.Log.Filter
import TokenAuthority.Log.Format
import TokenAuthority.Main
import TokenAuthority.Settings.Basic
import TokenAuthority.Startup
import TokenAuthority.Token.Authority
import TokenAuthority.Users.Json
import TokenAuthority.Users.Store
import TokenAuthority.Proofs.Access.Rules
import TokenAuthority.Proofs.Basic
import TokenAuthority.Proofs.Encoding.Armour
import TokenAuthority.Proofs.Encoding.RoundTrip
import TokenAuthority.Proofs.Http.Effects
import TokenAuthority.Proofs.Http.Mediation
import TokenAuthority.Proofs.Http.Privilege
import TokenAuthority.Proofs.Http.Secrecy
import TokenAuthority.Proofs.Identity.UserIdText
import TokenAuthority.Proofs.Json.Documents
import TokenAuthority.Proofs.Keys.History
import TokenAuthority.Proofs.Token.Lifetime
import TokenAuthority.Proofs.Token.NamedKey
import TokenAuthority.Proofs.Token.Rotation
import TokenAuthority.Proofs.Token.Wire
import TokenAuthority.Proofs.Text.Normal
import TokenAuthority.Proofs.Users.Registration
import TokenAuthority.Proofs.Keys.Loading
import TokenAuthority.Proofs.Keys.Views
import TokenAuthority.Proofs.Token.Retirement
import TokenAuthority.Proofs.Rsa.Recovery
import TokenAuthority.Proofs.Token.Readiness
import TokenAuthority.Proofs.Token.Precedence
import TokenAuthority.Proofs.Token.Precision
import TokenAuthority.Proofs.Http.Generations
import TokenAuthority.Proofs.Http.Reloading
import TokenAuthority.Proofs.Encoding.Exact
import TokenAuthority.Proofs.Keys.Sources
import TokenAuthority.Proofs.Rsa.Uniqueness
import TokenAuthority.Proofs.Token.Malleability
import TokenAuthority.Proofs.Token.Threshold
import TokenAuthority.Proofs.Access.Meaning
import TokenAuthority.Proofs.Claims.Decoding
import TokenAuthority.Proofs.Http.Checks
import TokenAuthority.Proofs.Rsa.Containers
import TokenAuthority.Proofs.Token.Containers
import TokenAuthority.Proofs.Json.Grammar
import TokenAuthority.Proofs.Encoding.Blocks
import TokenAuthority.Proofs.Encoding.Elements
import TokenAuthority.Proofs.Settings.Acceptance
import TokenAuthority.Proofs.Token.Stamping
import TokenAuthority.Proofs.Http.NewUsers
import TokenAuthority.Proofs.Startup.Conditions
import TokenAuthority.Proofs.Users.Listing
import TokenAuthority.Proofs.Identity.Spellings
import TokenAuthority.Proofs.Http.Subjects
import TokenAuthority.Proofs.Time.Calendar
import TokenAuthority.Proofs.Time.Timestamps
import TokenAuthority.Proofs.Users.Decoding
