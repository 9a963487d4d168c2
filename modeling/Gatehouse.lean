import Gatehouse.Api.Thing
import Gatehouse.Claims
import Gatehouse.Gate.Text
import Gatehouse.Main
import Gatehouse.Proofs.Api.BodyLimit
import Gatehouse.Proofs.Api.Combination
import Gatehouse.Proofs.Api.Events
import Gatehouse.Proofs.Api.Independence
import Gatehouse.Proofs.Api.Linearisation
import Gatehouse.Proofs.Api.Param
import Gatehouse.Proofs.Api.Recovery
import Gatehouse.Proofs.Api.Secrecy
import Gatehouse.Proofs.Api.Spelling
import Gatehouse.Proofs.Api.TokenForms
import Gatehouse.Proofs.Claims
import Gatehouse.Proofs.Duration
import Gatehouse.Proofs.Gate
import Gatehouse.Proofs.Health
import Gatehouse.Proofs.RoundTrip
import Gatehouse.Proofs.Settings.Display
import Gatehouse.Proofs.Settings.Export
import Gatehouse.Proofs.Settings.Secrecy
import Gatehouse.Token.Verify
