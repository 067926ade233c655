import GatewayCompiler.Build.Cluster
import GatewayCompiler.Build.Graph
import GatewayCompiler.Build.Ingress
import GatewayCompiler.Build.Lookup
import GatewayCompiler.Build.Root
import GatewayCompiler.Build.State
import GatewayCompiler.Build.Walk
import GatewayCompiler.Cache
import GatewayCompiler.Config.Basic
import GatewayCompiler.Config.Load
import GatewayCompiler.Decimal.Binary64
import GatewayCompiler.Digest.Sha256
import GatewayCompiler.Document.Decode
import GatewayCompiler.Document.Encode
import GatewayCompiler.Document.Node
import GatewayCompiler.Document.Scalar
import GatewayCompiler.Encoding.Base64
import GatewayCompiler.Encoding.Hex
import GatewayCompiler.Filter.Compression
import GatewayCompiler.Filter.Cors
import GatewayCompiler.Filter.Error
import GatewayCompiler.Filter.Lua
import GatewayCompiler.Filter.RateLimit
import GatewayCompiler.Filter.Settings
import GatewayCompiler.Graph.Basic
import GatewayCompiler.Graph.Conditions
import GatewayCompiler.Graph.Match
import GatewayCompiler.Graph.Status
import GatewayCompiler.Graph.Visit
import GatewayCompiler.Identity
import GatewayCompiler.OrderedMap
import GatewayCompiler.Pattern.Atom
import GatewayCompiler.Pattern.Bracket
import GatewayCompiler.Pattern.Engine
import GatewayCompiler.Pattern.Escape
import GatewayCompiler.Pattern.Expr
import GatewayCompiler.Pattern.Flags
import GatewayCompiler.Pattern.Property
import GatewayCompiler.Pattern.Read
import GatewayCompiler.Policy.Duration
import GatewayCompiler.Policy.Timeout
import GatewayCompiler.Proofs.Acceptance
import GatewayCompiler.Proofs.Building
import GatewayCompiler.Proofs.CacheEntries
import GatewayCompiler.Proofs.CacheHistory
import GatewayCompiler.Proofs.CacheVersions
import GatewayCompiler.Proofs.Certificates
import GatewayCompiler.Proofs.Cluster
import GatewayCompiler.Proofs.ClusterFilters
import GatewayCompiler.Proofs.ClusterNames
import GatewayCompiler.Proofs.Conditions
import GatewayCompiler.Proofs.ConnectionManagers
import GatewayCompiler.Proofs.Cycles
import GatewayCompiler.Proofs.DefaultFilters
import GatewayCompiler.Proofs.Delegation.Forwarding
import GatewayCompiler.Proofs.Delegation.Routes
import GatewayCompiler.Proofs.Delegation.Termination
import GatewayCompiler.Proofs.Determined
import GatewayCompiler.Proofs.Domains
import GatewayCompiler.Proofs.DurationGrammar
import GatewayCompiler.Proofs.FilterChains
import GatewayCompiler.Proofs.FilterOrder
import GatewayCompiler.Proofs.FilterSettings
import GatewayCompiler.Proofs.ForwardedHosts
import GatewayCompiler.Proofs.ForwardedShares
import GatewayCompiler.Proofs.ForwardingChains
import GatewayCompiler.Proofs.Frame
import GatewayCompiler.Proofs.GraphHosts
import GatewayCompiler.Proofs.Growth
import GatewayCompiler.Proofs.History
import GatewayCompiler.Proofs.HostFilters
import GatewayCompiler.Proofs.HostPolicies
import GatewayCompiler.Proofs.Hosts
import GatewayCompiler.Proofs.Ingress
import GatewayCompiler.Proofs.IngressRoutes
import GatewayCompiler.Proofs.Isolation
import GatewayCompiler.Proofs.Lookup
import GatewayCompiler.Proofs.MergedPaths
import GatewayCompiler.Proofs.NameCollisions
import GatewayCompiler.Proofs.NameLengths
import GatewayCompiler.Proofs.Naming
import GatewayCompiler.Proofs.Passthrough
import GatewayCompiler.Proofs.PathPatterns
import GatewayCompiler.Proofs.PathSpace
import GatewayCompiler.Proofs.Pattern.LeadIn
import GatewayCompiler.Proofs.Pattern.Limits
import GatewayCompiler.Proofs.Pattern.Matching
import GatewayCompiler.Proofs.Ports
import GatewayCompiler.Proofs.RefusedRoots
import GatewayCompiler.Proofs.RememberedPorts
import GatewayCompiler.Proofs.Requests
import GatewayCompiler.Proofs.Roots
import GatewayCompiler.Proofs.RouteKeys
import GatewayCompiler.Proofs.RouteOrder
import GatewayCompiler.Proofs.Routes
import GatewayCompiler.Proofs.Secrets
import GatewayCompiler.Proofs.SecureHosts
import GatewayCompiler.Proofs.ServerValidation
import GatewayCompiler.Proofs.SharedDomains
import GatewayCompiler.Proofs.SharedNames
import GatewayCompiler.Proofs.Shares
import GatewayCompiler.Proofs.Snapshot
import GatewayCompiler.Proofs.Statuses
import GatewayCompiler.Proofs.Timeouts
import GatewayCompiler.Proofs.Validity
import GatewayCompiler.Proofs.WellFormed
import GatewayCompiler.Proxy.Basic
import GatewayCompiler.Proxy.Message
import GatewayCompiler.Proxy.Naming
import GatewayCompiler.Render.Cluster
import GatewayCompiler.Render.FilterChain
import GatewayCompiler.Render.Listener
import GatewayCompiler.Render.Route
import GatewayCompiler.Render.Snapshot
import GatewayCompiler.Resource.Cluster
import GatewayCompiler.Resource.Filter
import GatewayCompiler.Resource.Metadata
import GatewayCompiler.Resource.Routing
import GatewayCompiler.Resource.Tls
import GatewayCompiler.Text.Blank
import GatewayCompiler.Text.HttpToken
import GatewayCompiler.Text.Integer
import GatewayCompiler.Text.Letter
import GatewayCompiler.Text.Quoted
import GatewayCompiler.Text.Runs
import GatewayCompiler.Yaml.Cursor
import GatewayCompiler.Yaml.Lexeme
import GatewayCompiler.Yaml.Stream
import GatewayCompiler.Yaml.Token
