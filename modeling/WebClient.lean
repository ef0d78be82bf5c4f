import WebClient.Main
import WebClient.Endpoint.Blog
import WebClient.Endpoint.Shop
import WebClient.Proofs.Pool
import WebClient.Proofs.Operation
import WebClient.Proofs.CallTurns
import WebClient.Proofs.StaleReply
import WebClient.Proofs.Expiry
import WebClient.Proofs.Mirror
import WebClient.Proofs.Ascending
import WebClient.Proofs.JsonReadBack
import WebClient.Proofs.AccountReadBack
import WebClient.Proofs.Resolution
import WebClient.Proofs.Restore
import WebClient.Proofs.SessionNews
import WebClient.Proofs.EnvelopeShape
import WebClient.Proofs.RestrictedArea
import WebClient.Proofs.LateRedirect
import WebClient.Proofs.UrlPath
import WebClient.Proofs.RequestPath
import WebClient.Proofs.CallEnds
import WebClient.Proofs.Itinerary
import WebClient.Proofs.StoreFaults
import WebClient.Proofs.IssuedToken
import WebClient.Proofs.Departure
import WebClient.Proofs.LateLogout
import WebClient.Proofs.SlowLoad
import WebClient.Proofs.Fairness
import WebClient.Proofs.Turns
import WebClient.Proofs.Visit
import WebClient.Proofs.PageStory
import WebClient.Proofs.ByteOrder
import WebClient.Proofs.Rows
import WebClient.Proofs.SessionStores
import WebClient.Proofs.Errands
import WebClient.Proofs.ReplyOrder
import WebClient.Proofs.Precedence
import WebClient.Proofs.Captures
import WebClient.Proofs.Redirects
import WebClient.Proofs.SelfRedirect
import WebClient.Proofs.ShortChains
import WebClient.Proofs.HeaderFields
import WebClient.Proofs.Wording
import WebClient.Proofs.PayloadShape
import WebClient.Proofs.LoginOutcome
import WebClient.Proofs.Placeholders
import WebClient.Proofs.FormReadBack
import WebClient.Proofs.AppendedQuery
import WebClient.Proofs.WrittenQuery
import WebClient.Proofs.QueryTemplate
import WebClient.Proofs.NamedValues
import WebClient.Proofs.OptionalSources
import WebClient.Proofs.StoredTexts
import WebClient.Proofs.WrittenAccount
import WebClient.Proofs.PlainPath
import WebClient.Proofs.BaseUrl
import WebClient.Proofs.HistoryShape
import WebClient.Proofs.Substitution
import WebClient.Proofs.Spelling
